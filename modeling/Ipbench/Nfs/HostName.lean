import Ipbench.Foundation.PairReplacement
import Ipbench.Lib.TokenBuffers

namespace Ipbench
namespace Nfs

open Foundation Latency Lib

/-!
# The host name in the names of the NFS latency test

`parse_arg` reads a path and a file name and looks for the first percent sign in each of
them.  If an `h` follows, this `h` becomes an `s`, and the whole name becomes the format
of a print with the host name as its argument.  A `%h` behind another percent sign is
never found, and every other percent sign behind a `%h` is part of the format.
-/

/-! ## The loop -/

/-- What `next_token` finds.  Without an argument there is nothing to read. -/
def argTokens (arg : Option CString) : List (List UInt8) :=
  arg.elim [] fun text => tokens separators text.bytes

/-- One turn of the loop, whose buffer has to hold the token. -/
def readOption (memory : Nat → Bool) (state : Nat × NfsOptions) (cmd : List UInt8) :
    Option (Nat × NfsOptions) :=
  if cmd.length < bufferSize then nfsOption memory state cmd else none

def readOptions (memory : Nat → Bool) (arg : Option CString) : Option (Nat × NfsOptions) :=
  (argTokens arg).foldlM (readOption memory) (2, nfsDefaults memory)

/-! ## The expansion -/

/-- What `snprintf` prints for a format and one text, and the sequences that it reads
besides a first `%s`.  What the rest of a format prints from another sequence on is up to
the library. -/
def printName (library : List UInt8 → List UInt8) (name format : List UInt8) :
    List UInt8 × List (List UInt8) :=
  let before := splitAtByte 37 format
  match before.2 with
  | none => (before.1, [])
  | some behind =>
      if behind.head? = some 115 then
        let between := splitAtByte 37 behind.tail
        let printed := before.1 ++ name ++ between.1
        match between.2 with
        | none => (printed, [])
        | some later => (printed ++ library (37 :: later), [37 :: later])
      else (before.1 ++ library (37 :: behind), [37 :: behind])

/-- One name after the search for `%h`, and the sequences that were read. -/
@[ext] structure Expansion where
  name : Option (List UInt8)
  sequences : List (List UInt8)
deriving DecidableEq, Repr

/-- `gethostname` and `snprintf` get room for 199 characters. -/
def expandName (library : List UInt8 → List UInt8) (available : Bool) (host name : List UInt8) :
    Expansion :=
  let found := splitAtByte 37 name
  match found.2 with
  | none => ⟨some name, []⟩
  | some behind =>
      if behind.head? = some 104 then
        let printed := printName library (host.take 199) (found.1 ++ 37 :: 115 :: behind.tail)
        ⟨strdup available (printed.1.take 199), printed.2⟩
      else ⟨some name, []⟩

/-- `parse_arg`, with the sequences that the prints read.  A name that is a null pointer
cannot be searched. -/
def parseArg (library : List UInt8 → List UInt8) (memory : Nat → Bool) (host : CString)
    (arg : Option CString) : Option (NfsOptions × List (List UInt8)) := do
  let state ← readOptions memory arg
  let path := expandName library (memory state.1) host.bytes (← state.2.path)
  let filename := expandName library (memory (state.1 + 1)) host.bytes (← state.2.filename)
  some ({ state.2 with path := path.name, filename := filename.name },
    path.sequences ++ filename.sequences)

/-! ## The given names -/

/-- The value that an option gives to a key. -/
def valueOf (key : String) (cmd : List UInt8) : Option (List UInt8) :=
  let option := splitAtByte 61 cmd
  if option.1 = literal key then option.2 else none

/-- The last value for a key, with the position of its option. -/
def lastGiven (key : String) (unset : Nat × List UInt8) (position : Nat)
    (options : List (List UInt8)) : Nat × List UInt8 :=
  ((options.zipIdx position).filterMap fun entry =>
    (valueOf key entry.1).map fun val => (entry.2, val)).getLast?.getD unset

def givenPath (arg : Option CString) : Nat × List UInt8 :=
  lastGiven "path" (0, literal "/tmp/%h") 2 (argTokens arg)

def givenFilename (arg : Option CString) : Nat × List UInt8 :=
  lastGiven "filename" (1, literal "bench.file") 2 (argTokens arg)

/-- A name with the host name in the place of each `%h`. -/
def withHost (host : CString) (name : List UInt8) : List UInt8 :=
  replacePair 37 104 host.bytes name

/-- Both names have at most 199 characters with the host name in them. -/
def Fits (host : CString) (arg : Option CString) : Prop :=
  (withHost host (givenPath arg).2).length ≤ 199 ∧
    (withHost host (givenFilename arg).2).length ≤ 199

/-- Both names are expanded, and nothing else in them is read as a format. -/
def Expands (library : List UInt8 → List UInt8) (memory : Nat → Bool) (host : CString)
    (arg : Option CString) : Prop :=
  ∃ options, parseArg library memory host arg = some (options, []) ∧
    options.path = some (withHost host (givenPath arg).2) ∧
    options.filename = some (withHost host (givenFilename arg).2)

/-! ## The condition -/

def optionKeys : List (List UInt8) :=
  ["path", "filename", "rate", "warmup", "cooldown", "samples"].map literal

def timeKeys : List (List UInt8) :=
  ["warmup", "cooldown"].map literal

/-- An option that fits the buffer, has a value if it is a known one, and has a time that
fits in microseconds. -/
def Readable (cmd : List UInt8) : Prop :=
  let option := splitAtByte 61 cmd
  cmd.length < bufferSize ∧ (option.1 ∈ optionKeys → option.2 ≠ none) ∧
    (option.1 ∈ timeKeys → ∀ val, option.2 = some val → InInt64 (strtoll val * usPerS))

/-- The first percent sign has an `h` behind it. -/
def MarkedFirst (name : List UInt8) : Prop :=
  ∃ front rest, 37 ∉ front ∧ name = front ++ 37 :: 104 :: rest

/-- There is no `%h`, or it has the only percent sign and there is memory for the copy,
or the host itself is called `%h` and nothing is searched. -/
def Foreseen (available : Bool) (host name : List UInt8) : Prop :=
  ¬ [37, 104] <:+: name ∨ (name.count 37 = 1 ∧ available = true) ∨
    (host = [37, 104] ∧ ¬ MarkedFirst name)

/-- Every option can be read, the copies of both names are made, and both are foreseen. -/
structure Unambiguous (memory : Nat → Bool) (host : CString) (arg : Option CString) : Prop where
  readable : ∀ cmd ∈ argTokens arg, Readable cmd
  pathCopied : memory (givenPath arg).1 = true
  filenameCopied : memory (givenFilename arg).1 = true
  path : Foreseen (memory (2 + (argTokens arg).length)) host.bytes (givenPath arg).2
  filename : Foreseen (memory (2 + (argTokens arg).length + 1)) host.bytes (givenFilename arg).2

/-! ## One turn -/

theorem nfsOption_some {memory : Nat → Bool} {state later : Nat × NfsOptions}
    {cmd : List UInt8} (read : nfsOption memory state cmd = some later) :
    later.1 = state.1 + 1 ∧
      later.2.path = (valueOf "path" cmd).elim state.2.path (strdup (memory state.1)) ∧
      later.2.filename =
        (valueOf "filename" cmd).elim state.2.filename (strdup (memory state.1)) := by
  unfold nfsOption at read
  unfold valueOf
  generalize splitAtByte 61 cmd = option at read
  rcases option with ⟨key, value⟩
  dsimp only at read ⊢
  split at read
  case isTrue path =>
    rcases Option.map_eq_some_iff.mp read with ⟨val, given, rfl⟩
    rw [if_pos path, if_neg (path ▸ by decide), given]
    exact ⟨rfl, rfl, rfl⟩
  rename_i noPath
  rw [if_neg noPath]
  split at read
  case isTrue filename =>
    rcases Option.map_eq_some_iff.mp read with ⟨val, given, rfl⟩
    rw [if_pos filename, given]
    exact ⟨rfl, rfl, rfl⟩
  rename_i noFilename
  rw [if_neg noFilename]
  split at read
  case isTrue =>
    rcases Option.map_eq_some_iff.mp read with ⟨val, given, rfl⟩
    exact ⟨rfl, rfl, rfl⟩
  split at read
  case isTrue =>
    rcases Option.bind_eq_some_iff.mp read with ⟨val, given, scaled⟩
    rcases Option.bind_eq_some_iff.mp scaled with ⟨product, fits, stored⟩
    cases stored
    exact ⟨rfl, rfl, rfl⟩
  split at read
  case isTrue =>
    rcases Option.bind_eq_some_iff.mp read with ⟨val, given, scaled⟩
    rcases Option.bind_eq_some_iff.mp scaled with ⟨product, fits, stored⟩
    cases stored
    exact ⟨rfl, rfl, rfl⟩
  split at read
  case isTrue =>
    rcases Option.map_eq_some_iff.mp read with ⟨val, given, rfl⟩
    exact ⟨rfl, rfl, rfl⟩
  cases read
  exact ⟨rfl, rfl, rfl⟩

theorem isSome_mulInt64_iff {left right : Int} :
    (mulInt64 left right).isSome = true ↔ InInt64 (left * right) := by
  unfold mulInt64
  split <;> simp [*]

section Turn

variable {key : List UInt8} {value : Option (List UInt8)} {State : Type}

theorem isSome_untimed_iff (known : key ∈ optionKeys) (untimed : key ∉ timeKeys)
    (store : List UInt8 → State) (fine : Prop) :
    (value.map store).isSome = true ↔
      (key ∈ optionKeys → value ≠ none) ∧ (key ∈ timeKeys → fine) := by
  rw [Option.isSome_map, Option.isSome_iff_ne_none, imp_iff_right known,
    and_iff_left fun timed => absurd timed untimed]

theorem isSome_timed_iff (known : key ∈ optionKeys) (timed : key ∈ timeKeys)
    (store : Int → State) :
    (do
      let product ← mulInt64 (strtoll (← value)) usPerS
      some (store product)).isSome = true ↔
      (key ∈ optionKeys → value ≠ none) ∧
        (key ∈ timeKeys → ∀ val, value = some val → InInt64 (strtoll val * usPerS)) := by
  rw [imp_iff_right known, imp_iff_right timed]
  cases value with
  | none => simp
  | some val =>
      have product : (mulInt64 (strtoll val) usPerS).isSome = true ↔
          InInt64 (strtoll val * usPerS) := isSome_mulInt64_iff
      cases scaled : mulInt64 (strtoll val) usPerS with
      | none => simpa [scaled] using product
      | some _ => simpa [scaled] using product

end Turn

/-- The loop goes on behind an option that can be read. -/
theorem isSome_readOption_iff {memory : Nat → Bool} {state : Nat × NfsOptions}
    {cmd : List UInt8} : (readOption memory state cmd).isSome = true ↔ Readable cmd := by
  unfold readOption Readable nfsOption
  generalize splitAtByte 61 cmd = option
  rcases option with ⟨key, value⟩
  dsimp only
  split
  case isFalse long => simp [long]
  rename_i short
  rw [and_iff_right short]
  split
  case isTrue path => exact isSome_untimed_iff (path ▸ by decide) (path ▸ by decide) _ _
  rename_i noPath
  split
  case isTrue filename =>
    exact isSome_untimed_iff (filename ▸ by decide) (filename ▸ by decide) _ _
  rename_i noFilename
  split
  case isTrue rate => exact isSome_untimed_iff (rate ▸ by decide) (rate ▸ by decide) _ _
  rename_i noRate
  split
  case isTrue warmup => exact isSome_timed_iff (warmup ▸ by decide) (warmup ▸ by decide) _
  rename_i noWarmup
  split
  case isTrue cooldown =>
    exact isSome_timed_iff (cooldown ▸ by decide) (cooldown ▸ by decide) _
  rename_i noCooldown
  split
  case isTrue samples =>
    exact isSome_untimed_iff (samples ▸ by decide) (samples ▸ by decide) _ _
  rename_i noSamples
  simp [optionKeys, timeKeys, noPath, noFilename, noRate, noWarmup, noCooldown, noSamples]

/-! ## All turns -/

theorem lastGiven_cons (key : String) (unset : Nat × List UInt8) (position : Nat)
    (cmd : List UInt8) (rest : List (List UInt8)) :
    lastGiven key unset position (cmd :: rest) =
      lastGiven key ((valueOf key cmd).elim unset fun val => (position, val)) (position + 1)
        rest := by
  unfold lastGiven
  rw [List.zipIdx_cons]
  cases given : valueOf key cmd with
  | none => simp [given]
  | some val => simp [given, List.getLast?_cons]

theorem isSome_foldlM_readOption_iff {memory : Nat → Bool} (options : List (List UInt8))
    (state : Nat × NfsOptions) :
    (options.foldlM (readOption memory) state).isSome = true ↔
      ∀ cmd ∈ options, Readable cmd := by
  induction options generalizing state with
  | nil => simp
  | cons cmd rest inductionHypothesis =>
      have turn : (readOption memory state cmd).isSome = true ↔ Readable cmd :=
        isSome_readOption_iff
      rw [List.foldlM_cons, List.forall_mem_cons, ← turn]
      cases read : readOption memory state cmd with
      | none => simp
      | some later => simpa using inductionHypothesis later

/-- A name is the copy of the last value for its key, or of the default. -/
theorem foldlM_readOption {memory : Nat → Bool} {options : List (List UInt8)}
    {state later : Nat × NfsOptions} {path filename : Nat × List UInt8}
    (pathStored : state.2.path = strdup (memory path.1) path.2)
    (filenameStored : state.2.filename = strdup (memory filename.1) filename.2)
    (read : options.foldlM (readOption memory) state = some later) :
    later.1 = state.1 + options.length ∧
      later.2.path = strdup (memory (lastGiven "path" path state.1 options).1)
        (lastGiven "path" path state.1 options).2 ∧
      later.2.filename = strdup (memory (lastGiven "filename" filename state.1 options).1)
        (lastGiven "filename" filename state.1 options).2 := by
  induction options generalizing state path filename with
  | nil =>
      cases read
      exact ⟨rfl, pathStored, filenameStored⟩
  | cons cmd rest inductionHypothesis =>
      rcases Option.bind_eq_some_iff.mp read with ⟨between, turn, loop⟩
      unfold readOption at turn
      split at turn
      case isFalse => cases turn
      rcases nfsOption_some turn with ⟨position, newPath, newFilename⟩
      rw [lastGiven_cons, lastGiven_cons, List.length_cons, ← position]
      have copied : ∀ (value : Option (List UInt8)) (old : Nat × List UInt8),
          value.elim (strdup (memory old.1) old.2) (strdup (memory state.1)) =
            strdup (memory (value.elim old fun val => (state.1, val)).1)
              (value.elim old fun val => (state.1, val)).2 := by
        intro value old
        cases value <;> rfl
      rw [pathStored, copied] at newPath
      rw [filenameStored, copied] at newFilename
      rcases inductionHypothesis newPath newFilename loop with ⟨last, rests⟩
      exact ⟨by omega, rests⟩

/-! ## One name -/

theorem printName_marked (library : List UInt8 → List UInt8) (host : List UInt8)
    {front rest : List UInt8} (absent : 37 ∉ front) :
    (37 ∉ rest ∧ printName library host (front ++ 37 :: 115 :: rest) =
      (front ++ host ++ rest, [])) ∨
    (37 ∈ rest ∧ (printName library host (front ++ 37 :: 115 :: rest)).2 ≠ []) := by
  unfold printName
  rw [splitAtByte_append absent]
  dsimp only
  rw [if_pos (show (115 :: rest).head? = some 115 from rfl), List.tail_cons]
  by_cases other : 37 ∈ rest
  · rcases List.eq_append_cons_of_mem other with ⟨between, later, rfl, plain⟩
    rw [splitAtByte_append plain]
    exact Or.inr ⟨other, List.cons_ne_nil _ _⟩
  · rw [splitAtByte_of_not_mem other]
    exact Or.inl ⟨other, rfl⟩

theorem expandName_marked (library : List UInt8 → List UInt8) (available : Bool)
    (host : List UInt8) {front rest : List UInt8} (absent : 37 ∉ front) :
    expandName library available host (front ++ 37 :: 104 :: rest) =
      ⟨strdup available ((printName library (host.take 199)
        (front ++ 37 :: 115 :: rest)).1.take 199),
        (printName library (host.take 199) (front ++ 37 :: 115 :: rest)).2⟩ := by
  unfold expandName
  rw [splitAtByte_append absent]
  rfl

/-- Without an `h` behind the first percent sign a name stays. -/
theorem expandName_unmarked (library : List UInt8 → List UInt8) (available : Bool)
    (host : List UInt8) {name : List UInt8} (unmarked : ¬ MarkedFirst name) :
    expandName library available host name = ⟨some name, []⟩ := by
  unfold expandName
  by_cases sign : 37 ∈ name
  · rcases List.eq_append_cons_of_mem sign with ⟨front, behind, rfl, absent⟩
    rw [splitAtByte_append absent]
    refine if_neg fun marked => unmarked ?_
    cases behind with
    | nil => cases marked
    | cons byte rest =>
        cases marked
        exact ⟨front, rest, absent, rfl⟩
  · rw [splitAtByte_of_not_mem sign]

theorem markedFirst_of_count {name : List UInt8} (mark : [37, 104] <:+: name)
    (only : name.count 37 = 1) : MarkedFirst name := by
  rcases mark with ⟨front, rest, rfl⟩
  refine ⟨front, rest, ?_, by simp⟩
  rw [← List.count_eq_zero]
  simp only [List.count_append] at only
  have one : List.count 37 [(37 : UInt8), 104] = 1 := by decide
  omega

theorem count_marked {front : List UInt8} (absent : 37 ∉ front) (rest : List UInt8) :
    (front ++ 37 :: 104 :: rest).count 37 = 1 ↔ 37 ∉ rest := by
  rw [List.count_append, List.count_eq_zero.mpr absent, List.count_cons_self,
    List.count_cons_of_ne (by decide), ← List.count_eq_zero]
  omega

/-- One name gets the host name in the place of each `%h`, without any other sequence,
if and only if it is a foreseen one. -/
theorem expandName_iff (library : List UInt8 → List UInt8) (available : Bool)
    {host name : List UInt8} (fits : (replacePair 37 104 host name).length ≤ 199) :
    expandName library available host name = ⟨some (replacePair 37 104 host name), []⟩ ↔
      Foreseen available host name := by
  by_cases marked : MarkedFirst name
  · rcases id marked with ⟨front, rest, absent, rfl⟩
    have mark : [37, 104] <:+: front ++ 37 :: 104 :: rest :=
      ⟨front, rest, by rw [List.append_assoc]; rfl⟩
    unfold Foreseen
    rw [expandName_marked library available host absent, count_marked absent,
      or_iff_right (not_not_intro mark), or_iff_left fun both => both.2 marked]
    rw [replacePair_append absent, replacePair_mark, ← List.append_assoc] at fits ⊢
    have short : host.take 199 = host := by
      apply List.take_of_length_le
      simp only [List.length_append] at fits
      omega
    rw [short]
    rcases printName_marked library host absent with ⟨plain, printed⟩ | ⟨sign, sequence⟩
    · rw [printed, and_iff_right plain, replacePair_of_not_mem plain] at *
      rw [List.take_of_length_le fits]
      cases available <;> simp [strdup]
    · exact iff_of_false (fun same => sequence (congrArg Expansion.sequences same))
        fun plain => plain.1 sign
  · rw [expandName_unmarked library available host marked, Expansion.mk.injEq,
      and_iff_left rfl, Option.some_inj, eq_comm, replacePair_eq_self_iff]
    unfold Foreseen
    rw [and_iff_left marked]
    constructor
    · exact Or.imp_right Or.inr
    · rintro (without | ⟨only, _⟩ | same)
      · exact Or.inl without
      · exact Or.inl fun mark => marked (markedFirst_of_count mark only)
      · exact Or.inr same

/-! ## Both names -/

/-- After the loop both names are copies of what is given. -/
theorem readOptions_some {memory : Nat → Bool} {arg : Option CString}
    {state : Nat × NfsOptions} (read : readOptions memory arg = some state) :
    state.1 = 2 + (argTokens arg).length ∧
      state.2.path = strdup (memory (givenPath arg).1) (givenPath arg).2 ∧
      state.2.filename = strdup (memory (givenFilename arg).1) (givenFilename arg).2 :=
  foldlM_readOption rfl rfl read

theorem strdup_eq_some_iff {available : Bool} {text copy : List UInt8} :
    strdup available text = some copy ↔ available = true ∧ text = copy := by
  cases available <;> simp [strdup]

theorem parseArg_eq_some_iff {library : List UInt8 → List UInt8} {memory : Nat → Bool}
    {host : CString} {arg : Option CString} {result : NfsOptions × List (List UInt8)} :
    parseArg library memory host arg = some result ↔
      ∃ state path filename, readOptions memory arg = some state ∧ state.2.path = some path ∧
        state.2.filename = some filename ∧
        ({ state.2 with
            path := (expandName library (memory state.1) host.bytes path).name,
            filename := (expandName library (memory (state.1 + 1)) host.bytes filename).name },
          (expandName library (memory state.1) host.bytes path).sequences ++
            (expandName library (memory (state.1 + 1)) host.bytes filename).sequences) =
          result := by
  simp [parseArg, Option.bind_eq_some_iff]

/-- Both names get the host name in the place of each `%h`, and no other sequence is read
as a format, if and only if the argument is unambiguous. -/
theorem parseArg_expands_iff (library : List UInt8 → List UInt8) (memory : Nat → Bool)
    (host : CString) (arg : Option CString) (fits : Fits host arg) :
    Expands library memory host arg ↔ Unambiguous memory host arg := by
  have loop : (readOptions memory arg).isSome = true ↔ ∀ cmd ∈ argTokens arg, Readable cmd :=
    isSome_foldlM_readOption_iff (argTokens arg) (2, nfsDefaults memory)
  constructor
  · rintro ⟨options, parsed, pathSame, filenameSame⟩
    rcases parseArg_eq_some_iff.mp parsed with
      ⟨state, path, filename, read, pathRead, filenameRead, result⟩
    rcases readOptions_some read with ⟨position, pathStored, filenameStored⟩
    rcases strdup_eq_some_iff.mp (pathStored.symm.trans pathRead) with ⟨pathCopied, rfl⟩
    rcases strdup_eq_some_iff.mp (filenameStored.symm.trans filenameRead) with
      ⟨filenameCopied, rfl⟩
    rcases Prod.mk.inj result with ⟨rfl, none⟩
    rw [List.append_eq_nil_iff] at none
    rw [position] at pathSame filenameSame none
    exact
      { readable := loop.mp (Option.isSome_of_eq_some read)
        pathCopied := pathCopied
        filenameCopied := filenameCopied
        path := (expandName_iff library _ fits.1).mp (Expansion.ext pathSame none.1)
        filename := (expandName_iff library _ fits.2).mp (Expansion.ext filenameSame none.2) }
  · intro unambiguous
    rcases Option.isSome_iff_exists.mp (loop.mpr unambiguous.readable) with ⟨state, read⟩
    rcases readOptions_some read with ⟨position, pathStored, filenameStored⟩
    have path := (expandName_iff library _ fits.1).mpr unambiguous.path
    have filename := (expandName_iff library _ fits.2).mpr unambiguous.filename
    refine ⟨_, parseArg_eq_some_iff.mpr ⟨state, (givenPath arg).2, (givenFilename arg).2, read,
      pathStored.trans (strdup_eq_some_iff.mpr ⟨unambiguous.pathCopied, rfl⟩),
      filenameStored.trans (strdup_eq_some_iff.mpr ⟨unambiguous.filenameCopied, rfl⟩),
      Prod.ext rfl ?_⟩, ?_, ?_⟩
    · rw [position, path, filename]
      rfl
    · rw [position]
      exact congrArg Expansion.name path
    · rw [position]
      exact congrArg Expansion.name filename

def nodeName : CString := ⟨literal "node", by decide⟩

theorem usualArgument_unambiguous :
    Unambiguous (fun _ => true) nodeName
      (some ⟨literal "path=/srv/%h", by decide⟩) :=
  (parseArg_expands_iff (fun _ => []) (fun _ => true) nodeName
    (some ⟨literal "path=/srv/%h", by decide⟩)
    ⟨by decide +kernel, by decide +kernel⟩).mp
    ⟨_, rfl, by decide +kernel, by decide +kernel⟩

/-- A percent sign before `%h` hides it, and one behind it is read as a format. -/
theorem secondSign_not_expanded :
    (Fits nodeName (some ⟨literal "path=/5%/%h", by decide⟩) ∧
      ¬ Expands (fun _ => []) (fun _ => true) nodeName
        (some ⟨literal "path=/5%/%h", by decide⟩)) ∧
    (Fits nodeName (some ⟨literal "path=/%h/%d", by decide⟩) ∧
      ¬ Expands (fun _ => []) (fun _ => true) nodeName
        (some ⟨literal "path=/%h/%d", by decide⟩)) := by
  refine ⟨⟨⟨by decide +kernel, by decide +kernel⟩, ?_⟩,
    ⟨⟨by decide +kernel, by decide +kernel⟩, ?_⟩⟩
  · rintro ⟨options, parsed, path, _⟩
    have left : (parseArg (fun _ => []) (fun _ => true) nodeName
        (some ⟨literal "path=/5%/%h", by decide⟩)).bind (fun result => result.1.path) =
          some (literal "/5%/%h") := rfl
    rw [parsed, Option.bind_some, path] at left
    exact absurd left (by decide +kernel)
  · rintro ⟨options, parsed, _⟩
    have read : (parseArg (fun _ => []) (fun _ => true) nodeName
        (some ⟨literal "path=/%h/%d", by decide⟩)).map Prod.snd = some [literal "%d"] := rfl
    rw [parsed] at read
    exact List.cons_ne_nil _ _ (Option.some.inj read).symm

end Nfs
end Ipbench
