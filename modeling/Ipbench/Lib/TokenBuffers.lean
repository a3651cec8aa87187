import Ipbench.Latency.Arguments
import Ipbench.Lib.TokenLoop

namespace Ipbench
namespace Lib

open Foundation Latency

/-!
# Token buffers

Every caller of `next_token` has a buffer of 200 bytes, and none of them looks at the
length of its string before.  A loop goes on until its body returns, or until it runs
into a null pointer or an overflow of a signed product.

The options of the sockets come from a variable of 200 bytes, so the loop over them
cannot leave its own buffer.
-/

/-! ## `set_socket_options` -/

inductive OptionType where
  | bool
  | int
  | on
deriving DecidableEq, Repr

def socketOptions : List (String × OptionType) :=
  [("SO_KEEPALIVE", .bool), ("SO_REUSEADDR", .bool), ("SO_BROADCAST", .bool),
    ("TCP_NODELAY", .bool), ("IPTOS_LOWDELAY", .on), ("IPTOS_THROUGHPUT", .on),
    ("SO_SNDBUF", .int), ("SO_RCVBUF", .int), ("SO_SNDLOWAT", .int), ("SO_RCVLOWAT", .int),
    ("SO_SNDTIMEO", .int), ("SO_RCVTIMEO", .int)]

/-- `tolower`. -/
def lowerByte (byte : UInt8) : UInt8 :=
  if 65 ≤ byte ∧ byte ≤ 90 then byte + 32 else byte

/-- The result of `setsockopt` for the option at a position.  It gets a value, or the
value that the table has. -/
abbrev SetSockOpt :=
  (position : Nat) → String → Option Int → Int

def setSocketOption (setsockopt : SetSockOpt) (position : Nat) (tok : List UInt8) : Option Nat :=
  let option := splitAtByte 61 tok
  let found := socketOptions.find? fun entry =>
    (literal entry.1).map lowerByte == option.1.map lowerByte
  match found with
  | none => some (position + 1)
  | some (name, opttype) =>
      let value := match option.2 with
        | none => 1
        | some text => Int.bmod (strtoll text) 0x100000000
      let ret : Int := match opttype, option.2 with
        | .on, none => setsockopt position name none
        | .on, some _ => 0
        | _, _ => setsockopt position name (some value)
      if ret ≠ 0 then none else some (position + 1)

def setSocketOptions (setsockopt : SetSockOpt) (options : List UInt8) : List Nat :=
  tokenLoop [59] (setSocketOption setsockopt) 0 options

/-! ## The latency test -/

/-- The body of the loop of `parse_arg`, with the position of the option. -/
def latencyOption (host : Host) (state : Nat × Globals) (cmd : List UInt8) :
    Option (Nat × Globals) :=
  let option := splitAtByte 61 cmd
  match parseOption host state.1 state.2 option.1 option.2 with
  | .next globals => some (state.1 + 1, globals)
  | .rejected => none
  | .fault => none

/-- `parse_arg`, and the socket options of an accepted argument. -/
def latencyWrites (host : Host) (setsockopt : SetSockOpt) (arg : CString) : List Nat :=
  tokenLoop separators (latencyOption host) (0, defaults) arg.bytes ++
    match parseArg host arg with
    | .next globals =>
        if globals.sockopts ≠ [] then setSocketOptions setsockopt globals.sockopts else []
    | .rejected => []
    | .fault => []

/-! ## The NFS latency test -/

/-- `struct nfs_options`.  A copy of a text is a null pointer without memory. -/
structure NfsOptions where
  path : Option (List UInt8)
  filename : Option (List UInt8)
  rate : UInt64
  warmup : UInt64
  cooldown : UInt64
  samples : UInt64
deriving DecidableEq, Repr

def strdup (available : Bool) (text : List UInt8) : Option (List UInt8) :=
  if available then some text else none

def nfsDefaults (memory : Nat → Bool) : NfsOptions where
  path := strdup (memory 0) (literal "/tmp/%h")
  filename := strdup (memory 1) (literal "bench.file")
  rate := 10000
  cooldown := 0
  warmup := 0
  samples := 20000

/-- The body of the loop of `parse_arg`, which goes on after other options. -/
def nfsOption (memory : Nat → Bool) (state : Nat × NfsOptions) (cmd : List UInt8) :
    Option (Nat × NfsOptions) :=
  let option := splitAtByte 61 cmd
  let position := state.1 + 1
  let options := state.2
  if option.1 = literal "path" then
    option.2.map fun val => (position, { options with path := strdup (memory state.1) val })
  else if option.1 = literal "filename" then
    option.2.map fun val => (position, { options with filename := strdup (memory state.1) val })
  else if option.1 = literal "rate" then
    option.2.map fun val => (position, { options with rate := asUint64 (strtoll val) })
  else if option.1 = literal "warmup" then do
    let product ← mulInt64 (strtoll (← option.2)) usPerS
    some (position, { options with warmup := asUint64 product })
  else if option.1 = literal "cooldown" then do
    let product ← mulInt64 (strtoll (← option.2)) usPerS
    some (position, { options with cooldown := asUint64 product })
  else if option.1 = literal "samples" then
    option.2.map fun val => (position, { options with samples := asUint64 (strtoll val) })
  else some (position, options)

def nfsWrites (memory : Nat → Bool) (arg : CString) : List Nat :=
  tokenLoop separators (nfsOption memory) (2, nfsDefaults memory) arg.bytes

/-! ## The wrapper -/

structure WrapperFiles where
  startFilename : List UInt8
  stopFilename : List UInt8
  outputFilename : List UInt8
deriving DecidableEq, Repr

def pathMax : Nat := 4096

/-- `check_file_exists`, for the name before the first blank. -/
def checkFileExists (stat : List UInt8 → Bool) (filename : List UInt8) : Bool :=
  stat ((filename.take (pathMax - 1)).takeWhile (· != 32))

def withFile (stat : List UInt8 → Bool) (val : Option (List UInt8))
    (store : List UInt8 → WrapperFiles) : Option WrapperFiles := do
  let filename ← val
  if checkFileExists stat filename then some (store (filename.take (pathMax - 1))) else none

/-- The body of the loop of `parse_arg`. -/
def wrapperOption (stat : Nat → List UInt8 → Bool) (state : Nat × WrapperFiles)
    (cmd : List UInt8) : Option (Nat × WrapperFiles) :=
  let option := splitAtByte 61 cmd
  let files := state.2
  let stored :=
    if option.1 = literal "start" then
      withFile (stat state.1) option.2 fun filename => { files with startFilename := filename }
    else if option.1 = literal "stop" then
      withFile (stat state.1) option.2 fun filename => { files with stopFilename := filename }
    else if option.1 = literal "output" then
      withFile (stat state.1) option.2 fun filename => { files with outputFilename := filename }
    else none
  stored.map fun files => (state.1 + 1, files)

def noWrapperFiles : WrapperFiles where
  startFilename := []
  stopFilename := []
  outputFilename := []

def wrapperWrites (stat : Nat → List UInt8 → Bool) (arg : CString) : List Nat :=
  tokenLoop separators (wrapperOption stat) (0, noWrapperFiles) arg.bytes

/-! ## All callers -/

/-- A caller of `next_token`, with what its environment answers. -/
inductive TokenCaller where
  | latency (host : Host) (setsockopt : SetSockOpt)
  | nfsLatency (memory : Nat → Bool)
  | wrapper (stat : Nat → List UInt8 → Bool)
  | socketOptions (setsockopt : SetSockOpt)

/-- The offsets that all calls write into their buffers. -/
def TokenCaller.writes (caller : TokenCaller) (text : CString) : List Nat :=
  match caller with
  | .latency host setsockopt => latencyWrites host setsockopt text
  | .nfsLatency memory => nfsWrites memory text
  | .wrapper stat => wrapperWrites stat text
  | .socketOptions setsockopt => setSocketOptions setsockopt text.bytes

/-- The tokens of the string up to the one that ends the loop. -/
def TokenCaller.reached (caller : TokenCaller) (text : CString) : List (List UInt8) :=
  match caller with
  | .latency host _ =>
      reachedTokens (latencyOption host) (0, defaults) (splitTokens separators text.bytes)
  | .nfsLatency memory =>
      reachedTokens (nfsOption memory) (2, nfsDefaults memory) (splitTokens separators text.bytes)
  | .wrapper stat =>
      reachedTokens (wrapperOption stat) (0, noWrapperFiles) (splitTokens separators text.bytes)
  | .socketOptions setsockopt =>
      reachedTokens (setSocketOption setsockopt) 0 (splitTokens [59] text.bytes)

/-- The size of the buffers `cmd` and `tok`. -/
def bufferSize : Nat := 200

/-! ## The socket options of the latency test -/

theorem withValue_next {val : Option (List UInt8)} {use : List UInt8 → Parsed} {later : Globals}
    (next : withValue val use = .next later) : ∃ text, use text = .next later := by
  cases val with
  | none => cases next
  | some text => exact ⟨text, next⟩

theorem scaled_next {factor : Int} {text : List UInt8} {store : UInt64 → Globals} {later : Globals}
    (next : scaled factor text store = .next later) : ∃ product, later = store product := by
  unfold scaled at next
  split at next
  · cases next
  · cases next
    exact ⟨_, rfl⟩

/-- An option leaves the socket options, or it stores as many bytes as there is room for. -/
theorem parseOption_sockopts {host : Host} {position : Nat} {globals later : Globals}
    {cmd : List UInt8} {val : Option (List UInt8)}
    (next : parseOption host position globals cmd val = .next later) :
    later.sockopts = globals.sockopts ∨ later.sockopts.length ≤ 199 := by
  unfold parseOption at next
  split at next
  case h_1 | h_3 | h_4 | h_8 | h_9 =>
    rcases withValue_next next with ⟨text, stored⟩
    cases stored
    exact Or.inl rfl
  case h_2 | h_5 | h_6 =>
    rcases withValue_next next with ⟨text, stored⟩
    rcases scaled_next stored with ⟨product, rfl⟩
    exact Or.inl rfl
  case h_7 =>
    rcases withValue_next next with ⟨text, stored⟩
    split at stored
    · cases stored
      exact Or.inl rfl
    · split at stored <;> cases stored <;> exact Or.inl rfl
  case h_10 =>
    rcases withValue_next next with ⟨text, stored⟩
    cases stored
    exact Or.inr (List.length_take_le 199 text)
  case h_11 =>
    cases next
    exact Or.inl rfl
  case h_12 =>
    split at next
    · cases next
    · split at next
      · split at next
        · cases next
        · cases next
          exact Or.inl rfl
      · cases next
  case h_13 =>
    rcases withValue_next next with ⟨text, stored⟩
    split at stored
    · cases stored
    · cases stored
      exact Or.inl rfl
  case h_14 => cases next

theorem parseTokens_sockopts {host : Host} {position : Nat} {globals later : Globals}
    {options : List (List UInt8)} (short : globals.sockopts.length ≤ 199)
    (next : parseTokens host position globals options = .next later) :
    later.sockopts.length ≤ 199 := by
  induction options generalizing position globals with
  | nil =>
      cases next
      exact short
  | cons token rest inductionHypothesis =>
      rw [parseTokens] at next
      split at next
      · cases next
      · dsimp only at next
        split at next
        · rename_i between stored
          apply inductionHypothesis _ next
          rcases parseOption_sockopts stored with same | fits
          · rw [same]
            exact short
          · exact fits
        · cases next
        · cases next

theorem parseArg_sockopts {host : Host} {arg : CString} {globals : Globals}
    (accepted : parseArg host arg = .next globals) : globals.sockopts.length ≤ 199 := by
  unfold parseArg at accepted
  split at accepted
  · rename_i later parsed
    cases accepted
    have short := parseTokens_sockopts (Nat.zero_le _) parsed
    unfold limitSize
    split <;> exact short
  · cases accepted
  · cases accepted

/-- The socket options that the latency test stores fit any loop over them. -/
theorem setSocketOptions_inside (setsockopt : SetSockOpt) {options : List UInt8}
    (short : options.length ≤ 199) :
    ∀ offset ∈ setSocketOptions setsockopt options, offset < bufferSize := by
  unfold setSocketOptions
  rw [tokenLoop_inside_iff _ _ (by decide), ← tokens_eq_splitTokens (by decide)]
  intro token member
  have among := (reachedTokens_sublist _ _ _).subset member
  exact Nat.lt_succ_of_le (Nat.le_trans (token_length_le options token among) short)

/-! ## The condition -/

/-- For every caller, environment and string: all writes are inside the buffers if and
only if no token up to the last that is read has more than 199 bytes. -/
theorem writes_inside_iff (caller : TokenCaller) (text : CString) :
    (∀ offset ∈ caller.writes text, offset < bufferSize) ↔
      ∀ token ∈ caller.reached text, token.length < bufferSize := by
  have loops : ∀ (State : Type) (body : State → List UInt8 → Option State) (state : State),
      (∀ offset ∈ tokenLoop separators body state text.bytes, offset < bufferSize) ↔
        ∀ token ∈ reachedTokens body state (splitTokens separators text.bytes),
          token.length < bufferSize := fun State body state =>
    tokenLoop_inside_iff separators body (by decide) bufferSize state text.bytes
  cases caller with
  | latency host setsockopt =>
      have nested : ∀ offset ∈ (match parseArg host text with
          | .next globals =>
              if globals.sockopts ≠ [] then setSocketOptions setsockopt globals.sockopts else []
          | .rejected => []
          | .fault => []), offset < bufferSize := by
        cases accepted : parseArg host text with
        | next globals =>
            dsimp only
            split
            · exact setSocketOptions_inside setsockopt (parseArg_sockopts accepted)
            · exact fun _ impossible => absurd impossible List.not_mem_nil
        | rejected => exact fun _ impossible => absurd impossible List.not_mem_nil
        | fault => exact fun _ impossible => absurd impossible List.not_mem_nil
      refine Iff.trans ?_ (loops _ (latencyOption host) (0, defaults))
      exact List.forall_mem_append.trans (and_iff_left nested)
  | nfsLatency memory => exact loops _ (nfsOption memory) (2, nfsDefaults memory)
  | wrapper stat => exact loops _ (wrapperOption stat) (0, noWrapperFiles)
  | socketOptions setsockopt =>
      exact tokenLoop_inside_iff [59] (setSocketOption setsockopt) (by decide) bufferSize 0
        text.bytes

theorem longOption_overflows :
    ¬ ∀ offset ∈ (TokenCaller.latency plentifulHost fun _ _ _ => 0).writes
      ⟨List.replicate 200 97, by decide⟩, offset < bufferSize := by
  intro inside
  have loop : ∀ offset ∈ tokenLoop separators (latencyOption plentifulHost) (0, defaults)
      (List.replicate 200 97), offset < bufferSize := fun offset member =>
    inside offset (List.mem_append_left _ member)
  rw [tokenLoop_inside_iff _ _ (by decide)] at loop
  have pieces : splitTokens separators (List.replicate 200 97) = [List.replicate 200 97] := by
    decide +kernel
  rw [pieces] at loop
  have short := loop (List.replicate 200 97) List.mem_cons_self
  rw [List.length_replicate] at short
  exact absurd short (Nat.lt_irrefl 200)

end Lib
end Ipbench
