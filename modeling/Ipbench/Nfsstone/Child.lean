import Ipbench.Foundation.CText
import Ipbench.Foundation.Program

namespace Ipbench
namespace Nfsstone

open Foundation
open Program

/-!
# The work of a child

A child of `nfsstone_run` works in a directory of its own: it writes a file,
reads it ten times in two orders and makes the other calls that the benchmark
counts.  The file server is arbitrary: any call may fail, and what is read may
be anything.

A block is known by its first word, the only one that the code sets and looks
at.
-/

/-! ## System calls -/

inductive Errno where
  | exist
  | noEntry
  | other
deriving DecidableEq, Repr

/-- The calls of a child.  A file is always opened for reading and writing, created and
truncated; `first` is the first word of the block that is written. -/
inductive Syscall where
  | chdir (dir : List UInt8)
  | openFile (name : List UInt8)
  | lseek (fd offset : Int)
  | write (fd first : Int)
  | read (fd : Int)
  | fsync (fd : Int)
  | close (fd : Int)
  | symlink (target name : List UInt8)
  | readlink (name : List UInt8)
  | unlink (name : List UInt8)
  | access (name : List UInt8)
  | rename (old new : List UInt8)
  | sync
deriving DecidableEq, Repr

/-- What a call returns, the error it leaves, and the first word of the buffer behind it. -/
structure Answer where
  value : Int
  errno : Errno
  first : Int
deriving DecidableEq, Repr

abbrev Step : Type :=
  Program Syscall Answer Unit

/-! ## The code -/

def filesPerDir : Nat := 1
def fileCreates : Nat := 83
def nReadLink : Nat := 583
def blocksPerFile : Nat := 250
def fileLookups : Nat := 4167
def bytesPerBlock : Int := 8192

/-- What `sprintf` writes for `%8d`. -/
def padded (number : Nat) : List UInt8 :=
  List.replicate (8 - (decimal number).length) 32 ++ decimal number

def testLink : List UInt8 := literal "Test_link"
def testCreate : List UInt8 := literal "test_create"
def testOfRename : List UInt8 := literal "Test_of_rename"

/-- A call whose answer is not looked at. -/
def ignore (request : Syscall) : Step := do
  let _ ← ask request

def seek (fd offset : Int) : Step := do
  let moved ← ask (.lseek fd offset)
  require (moved.value ≠ -1)

/-- A turn of the loop of `seq_write`. -/
def writeBlock (fd : Int) (j : Nat) : Step := do
  let written ← ask (.write fd j)
  require (written.value = bytesPerBlock)

def seqWrite (fd : Int) : Step := do
  seek fd 0
  forEach (writeBlock fd) (List.range blocksPerFile)
  ignore (.fsync fd)

/-- A block is read and compared with its number. -/
def readBlock (fd : Int) (j : Nat) : Step := do
  let got ← ask (.read fd)
  require (got.value = bytesPerBlock)
  require (got.first = j)

def seqRead (fd : Int) : Step := do
  seek fd 0
  forEach (readBlock fd) (List.range blocksPerFile)

/-- A turn of the loop of `nseq_read`. -/
def readPair (fd : Int) (j : Nat) : Step := do
  seek fd (j * bytesPerBlock)
  readBlock fd j
  seek fd ((blocksPerFile - (j + 1) : Nat) * bytesPerBlock)
  readBlock fd (blocksPerFile - (j + 1))

def nseqRead (fd : Int) : Step :=
  forEach (readPair fd) (List.range (blocksPerFile / 2))

def readLink : Step := do
  let got ← ask (.readlink testLink)
  require (got.value ≠ -1)

/-- A turn of the loop of the create requests. -/
def createFile : Step := do
  let cfd ← ask (.openFile testCreate)
  require (0 ≤ cfd.value)
  ignore (.fsync cfd.value)
  ignore (.close cfd.value)

/-- A file that does not exist is looked up. -/
def lookUp (pid : Int) (i j : Nat) : Step :=
  ignore (.access (literal "xx" ++ decimal j ++ decimal pid ++ decimal i))

/-- The body of the loop of `do_child`. -/
def fileTurn (pid : Int) (i : Nat) : Step := do
  let fd ← ask (.openFile (padded i))
  require (0 ≤ fd.value)
  seqWrite fd.value
  seqRead fd.value
  let linked ← ask (.symlink (literal "/aaa/bbb/ccc/ddd/eee/fff") testLink)
  require (linked.value = 0 ∨ linked.errno = .exist)
  forEach (fun _ => readLink) (List.range nReadLink)
  nseqRead fd.value
  ignore (.unlink testLink)
  forEach (fun _ => createFile) (List.range fileCreates)
  seqRead fd.value
  ignore (.unlink testCreate)
  seqRead fd.value
  forEach (lookUp pid i) (List.range fileLookups)
  seqRead fd.value
  nseqRead fd.value
  seqRead fd.value
  seqRead fd.value
  seqRead fd.value
  nseqRead fd.value
  ignore (.close fd.value)
  let renamed ← ask (.rename (padded i) testOfRename)
  require (renamed.value = 0)
  let removed ← ask (.unlink testOfRename)
  require (removed.value = 0 ∨ removed.errno = .noEntry)
  ignore .sync

/-- `do_child`: giving up is its `exit(-FAIL)`. -/
def doChild (pid : Int) (dir : List UInt8) : Step := do
  let entered ← ask (.chdir dir)
  require (entered.value = 0)
  forEach (fileTurn pid) (List.range filesPerDir)

/-! ## What a child is for -/

/-- The calls that the benchmark counts: blocks, lookups, creates, links that are read, and the
removal of the file. -/
def Syscall.stones : Syscall → Nat
  | .openFile _ | .write _ _ | .read _ | .readlink _ | .access _ => 1
  | .unlink name => if name = testOfRename then 1 else 0
  | _ => 0

/-- What is seen of a child: the calls counted so far, the position in the file, and the reads
that did not give the block at that position. -/
structure Seen where
  stones : Nat
  position : Int
  misread : Nat
deriving DecidableEq, Repr

def Seen.start : Seen where
  stones := 0
  position := 0
  misread := 0

def Seen.moved (seen : Seen) (answer : Answer) : Syscall → Int
  | .lseek _ offset => if answer.value = -1 then seen.position else offset
  | .write _ _ | .read _ => seen.position + answer.value
  | _ => seen.position

def Seen.ReadsBlock (seen : Seen) (answer : Answer) : Prop :=
  answer.value = bytesPerBlock ∧ answer.first * bytesPerBlock = seen.position

instance (seen : Seen) (answer : Answer) : Decidable (seen.ReadsBlock answer) :=
  inferInstanceAs (Decidable (_ ∧ _))

def Seen.misreads (seen : Seen) (answer : Answer) : Syscall → Nat
  | .read _ => if seen.ReadsBlock answer then 0 else 1
  | _ => 0

/-- An observer that counts on nothing. -/
def bystander : Observer Syscall Answer Seen where
  allows := fun _ _ _ => True
  next := fun seen call answer =>
    { stones := seen.stones + call.stones
      position := seen.moved answer call
      misread := seen.misread + seen.misreads answer call }

/-- Calls that count, and no read that went wrong. -/
structure Gains (count : Nat) (before after : Seen) : Prop where
  stones : after.stones = before.stones + count
  misread : after.misread = before.misread

/-- A program that gives up, or makes so many of the counted calls and reads well. -/
structure Adds (count : Nat) (program : Step) : Prop where
  ends : ∀ seen,
    bystander.Ends (fun _ => True) (fun _ after => Gains count seen after) program seen

theorem Gains.trans {first second : Nat} {before middle after : Seen}
    (earlier : Gains first before middle) (later : Gains second middle after) :
    Gains (first + second) before after where
  stones := by rw [later.stones, earlier.stones, Nat.add_assoc]
  misread := later.misread.trans earlier.misread

theorem Gains.refl (seen : Seen) : Gains 0 seen seen where
  stones := rfl
  misread := rfl

theorem Adds.bind {first second : Nat} {program : Step} {next : Unit → Step}
    (earlier : Adds first program) (later : Adds second (next ())) :
    Adds (first + second) (program >>= next) := by
  refine ⟨fun seen => ?_⟩
  refine (earlier.ends seen).bind fun _ middle gained => ?_
  exact (later.ends middle).mono fun _ _ more => gained.trans more

theorem adds_ask {request : Syscall} (cost : Nat) (costs : request.stones = cost)
    (other : ∀ seen answer, Seen.misreads seen answer request = 0)
    {count : Nat} {next : Answer → Step} (later : ∀ answer, Adds count (next answer)) :
    Adds (cost + count) (ask request >>= next) := by
  refine ⟨fun seen => ?_⟩
  refine Observer.ends_ask.mpr fun answer _ => ?_
  have here : Gains cost seen (bystander.next seen request answer) :=
    { stones := congrArg (seen.stones + ·) costs
      misread := congrArg (seen.misread + ·) (other seen answer) }
  exact ((later answer).ends _).mono fun _ _ more => here.trans more

theorem adds_done : Adds 0 (pure ()) :=
  ⟨fun seen => Observer.ends_pure.mpr (Gains.refl seen)⟩

theorem adds_ignore {request : Syscall} (cost : Nat) (costs : request.stones = cost)
    (other : ∀ seen answer, Seen.misreads seen answer request = 0) :
    Adds cost (ignore request) :=
  adds_ask cost costs other fun _ => adds_done

theorem adds_require (condition : Prop) [Decidable condition] : Adds 0 (require condition) :=
  ⟨fun seen => Observer.ends_require (fun _ => Gains.refl seen) fun _ => trivial⟩

theorem Adds.of_eq {count other : Nat} {program : Step} (adds : Adds count program)
    (same : count = other) : Adds other program :=
  same ▸ adds

theorem Adds.forEach (body : Nat → Step) (count : Nat) (turn : ∀ item, Adds count (body item))
    (bound : Nat) : Adds (bound * count) (forEach body (List.range bound)) := by
  refine ⟨fun seen => ?_⟩
  refine (Observer.ends_forEach
    (fun turns after => Gains (turns * count) seen after) ?_ ?_).mono
      fun _ after gained => ?_
  · intro turns item _ state gained
    refine ((turn item).ends state).mono fun _ _ more => ?_
    rw [Nat.succ_mul]
    exact gained.trans more
  · rw [Nat.zero_mul]
    exact Gains.refl seen
  · rw [List.length_range] at gained
    exact gained

/-! ## Reading and writing -/

/-- A loop over the numbers below a bound has the number of the turn. -/
theorem turn_of_range {bound turn item : Nat} (listed : (List.range bound)[turn]? = some item) :
    item = turn ∧ turn < bound := by
  rcases List.getElem?_eq_some_iff.mp listed with ⟨below, same⟩
  rw [List.getElem_range] at same
  exact ⟨same.symm, by rwa [List.length_range] at below⟩

theorem seek_ends (fd offset : Int) (seen : Seen) :
    bystander.Ends (fun _ => True)
      (fun _ after => Gains 0 seen after ∧ after.position = offset) (seek fd offset) seen := by
  refine Observer.ends_ask.mpr fun moved _ => ?_
  refine Observer.ends_require (fun found => ⟨⟨rfl, rfl⟩, ?_⟩) fun _ => trivial
  exact if_neg found

/-- A block that is accepted is the one at the position. -/
theorem readBlock_ends (fd : Int) {j : Nat} {seen : Seen}
    (placed : seen.position = j * bytesPerBlock) :
    bystander.Ends (fun _ => True)
      (fun _ after => Gains 1 seen after ∧ after.position = (j + 1 : Nat) * bytesPerBlock)
      (readBlock fd j) seen := by
  refine Observer.ends_ask.mpr fun got _ => ?_
  refine Observer.ends_bind.mpr ?_
  refine Observer.ends_require (fun whole => ?_) fun _ => trivial
  refine Observer.ends_require (fun right => ⟨⟨rfl, ?_⟩, ?_⟩) fun _ => trivial
  · have reads : seen.ReadsBlock got := ⟨whole, by rw [right, placed]⟩
    exact congrArg (seen.misread + ·) (if_pos reads)
  · change seen.position + got.value = _
    rw [placed, whole, Int.natCast_succ, Int.add_mul, Int.one_mul]

theorem seqWrite_adds (fd : Int) : Adds blocksPerFile (seqWrite fd) := by
  have writes (j : Nat) : Adds 1 (writeBlock fd j) :=
    adds_ask 1 rfl (fun _ _ => rfl) fun _ => adds_require _
  have synced : Adds 0 (ignore (.fsync fd)) := adds_ignore 0 rfl fun _ _ => rfl
  refine ⟨fun seen => ?_⟩
  refine (seek_ends fd 0 seen).bind fun _ start begun => ?_
  refine ((Adds.bind (Adds.forEach (writeBlock fd) 1 writes blocksPerFile) synced).ends start).mono
    fun _ after gained => ?_
  simpa using begun.1.trans gained

theorem seqRead_adds (fd : Int) : Adds blocksPerFile (seqRead fd) := by
  refine ⟨fun seen => ?_⟩
  refine (seek_ends fd 0 seen).bind fun _ start begun => ?_
  -- After as many turns as blocks were read, the position is behind the last of them.
  refine (Observer.ends_forEach (fun turns after =>
    Gains turns seen after ∧ after.position = turns * bytesPerBlock) ?_ ?_).mono
      fun _ after held => ?_
  · intro turns item listed state held
    rw [(turn_of_range listed).1]
    exact (readBlock_ends fd held.2).mono fun _ after more => ⟨held.1.trans more.1, more.2⟩
  · exact ⟨begun.1, begun.2.trans (Int.zero_mul bytesPerBlock).symm⟩
  · rw [List.length_range] at held
    exact held.1

theorem nseqRead_adds (fd : Int) : Adds blocksPerFile (nseqRead fd) := by
  have pair (j : Nat) : Adds 2 (readPair fd j) := by
    refine ⟨fun seen => ?_⟩
    refine (seek_ends fd _ seen).bind fun _ first begun => ?_
    refine (readBlock_ends fd begun.2).bind fun _ second lower => ?_
    refine (seek_ends fd _ second).bind fun _ third moved => ?_
    refine (readBlock_ends fd moved.2).mono fun _ after upper => ?_
    exact ((begun.1.trans lower.1).trans moved.1).trans upper.1
  exact (Adds.forEach (readPair fd) 2 pair (blocksPerFile / 2)).of_eq rfl

/-! ## The whole child -/

/-- The counted calls of a file: those of `TOT_FILEOPS`, its creation and its removal. -/
def fileStones : Nat :=
  11 * blocksPerFile + (fileLookups + fileCreates + nReadLink) + 2

theorem fileTurn_adds (pid : Int) (i : Nat) : Adds fileStones (fileTurn pid i) := by
  have link (_ : Nat) : Adds 1 readLink := adds_ask 1 rfl (fun _ _ => rfl) fun _ => adds_require _
  have create (_ : Nat) : Adds (1 + (0 + (0 + 0))) createFile :=
    adds_ask 1 rfl (fun _ _ => rfl) fun _ => (adds_require _).bind <|
      (adds_ignore 0 rfl fun _ _ => rfl).bind <| adds_ignore 0 rfl fun _ _ => rfl
  have lookup (j : Nat) : Adds 1 (lookUp pid i j) := adds_ignore 1 rfl fun _ _ => rfl
  have links := Adds.forEach (fun _ => readLink) 1 link nReadLink
  have creates := Adds.forEach (fun _ => createFile) 1 create fileCreates
  have lookups := Adds.forEach (lookUp pid i) 1 lookup fileLookups
  rw [Nat.mul_one] at links creates lookups
  have total : fileStones = 1 + (0 + (blocksPerFile + (blocksPerFile + (0 + (0 + (nReadLink +
      (blocksPerFile + (0 + (fileCreates + (blocksPerFile + (0 + (blocksPerFile + (fileLookups +
      (blocksPerFile + (blocksPerFile + (blocksPerFile + (blocksPerFile + (blocksPerFile +
      (blocksPerFile + (0 + (0 + (0 + (1 + (0 + 0)))))))))))))))))))))))) := rfl
  rw [total]
  exact adds_ask 1 rfl (fun _ _ => rfl) fun fd => (adds_require _).bind <|
    (seqWrite_adds _).bind <| (seqRead_adds _).bind <|
    adds_ask 0 rfl (fun _ _ => rfl) fun linked => (adds_require _).bind <|
    links.bind <| (nseqRead_adds _).bind <| (adds_ignore 0 rfl fun _ _ => rfl).bind <|
    creates.bind <| (seqRead_adds _).bind <| (adds_ignore 0 rfl fun _ _ => rfl).bind <|
    (seqRead_adds _).bind <| lookups.bind <| (seqRead_adds _).bind <| (nseqRead_adds _).bind <|
    (seqRead_adds _).bind <| (seqRead_adds _).bind <| (seqRead_adds _).bind <|
    (nseqRead_adds _).bind <| (adds_ignore 0 rfl fun _ _ => rfl).bind <|
    adds_ask 0 rfl (fun _ _ => rfl) fun renamed => (adds_require _).bind <|
    adds_ask 1 rfl (fun _ _ => rfl) fun removed => (adds_require _).bind <|
    adds_ignore 0 rfl fun _ _ => rfl

theorem doChild_adds (pid : Int) (dir : List UInt8) :
    Adds (filesPerDir * fileStones) (doChild pid dir) := by
  have files := Adds.forEach (fileTurn pid) fileStones (fileTurn_adds pid) filesPerDir
  refine Adds.of_eq (adds_ask 0 rfl (fun _ _ => rfl) fun _ => (adds_require _).bind files) ?_
  exact (Nat.zero_add _).trans (Nat.zero_add _)

section Runs

variable {Server : Type} (answer : Server → Syscall → Answer × Server)

/-- What is seen of the calls of a run. -/
def seenIn (trace : List (Syscall × Answer)) : Seen :=
  bystander.along Seen.start trace

/-- On any file server, a child that ends well has made all of the counted calls, and every
read gave it the block at its position. -/
theorem gains_of_exits (pid : Int) (dir : List UInt8) (server : Server)
    (exits : ((doChild pid dir).run answer server).result = some ()) :
    Gains (filesPerDir * fileStones) Seen.start
      (seenIn ((doChild pid dir).run answer server).trace) := by
  have described := bystander.describes_every answer fun _ _ _ => trivial
  have ended := ((doChild_adds pid dir).ends Seen.start).run described server trivial
  rw [exits] at ended
  exact ended

end Runs

end Nfsstone
end Ipbench
