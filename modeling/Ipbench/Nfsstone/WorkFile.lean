import Ipbench.Nfsstone.Child

namespace Ipbench
namespace Nfsstone

open Foundation
open Program

/-!
# A child on a file server that works

A server that works keeps the blocks of the file of a child: a read gives the
block that was written last at its position.  On such a server no check of a
child fails, so that a report of corrupted data is never a false one.  The
server may still refuse to create what exists and to remove what does not, as
a server does that answers a repeated request.
-/

/-- The file of a child: the first word of the block at each offset that was written, the position
in it, and whether the link has been made. -/
structure WorkFile where
  blocks : Int → Option Int
  position : Int
  linked : Bool

namespace WorkFile

def write (file : WorkFile) (first : Int) : WorkFile where
  blocks := fun offset => if offset = file.position then some first else file.blocks offset
  position := file.position + bytesPerBlock
  linked := file.linked

/-- What a call does to the file of this name. -/
def after (name : List UInt8) (file : WorkFile) : Syscall → WorkFile
  | .openFile opened =>
      if opened = name then { file with blocks := fun _ => none, position := 0 } else file
  | .lseek _ offset => { file with position := offset }
  | .write _ first => file.write first
  | .read _ => { file with position := file.position + bytesPerBlock }
  | .symlink _ _ => { file with linked := true }
  | .unlink removed => { file with linked := file.linked && removed ≠ testLink }
  | _ => file

/-- What a server that works may answer. -/
def Allows (file : WorkFile) (answer : Answer) : Syscall → Prop
  | .chdir _ => answer.value = 0
  | .openFile _ => 0 ≤ answer.value
  | .lseek _ offset => 0 ≤ offset → answer.value = offset
  | .write _ _ => answer.value = bytesPerBlock
  | .read _ => ∀ first, file.blocks file.position = some first →
      answer.value = bytesPerBlock ∧ answer.first = first
  | .symlink _ _ => answer.value = 0 ∨ answer.errno = .exist
  | .readlink _ => file.linked = true → answer.value ≠ -1
  | .unlink _ => answer.value = 0 ∨ answer.errno = .noEntry
  | .rename _ _ => answer.value = 0
  | _ => True

/-- Every block of the file holds its number. -/
def Written (file : WorkFile) : Prop :=
  ∀ j < blocksPerFile, file.blocks (j * bytesPerBlock) = some (j : Int)

end WorkFile

/-- An observer that counts on a server that works. -/
def works (name : List UInt8) : Observer Syscall Answer WorkFile where
  allows := fun file call answer => file.Allows answer call
  next := fun file call _ => file.after name call

/-! ## Writing and reading -/

/-- A program that does not give up and leaves the written file. -/
structure Reads (name : List UInt8) (program : Step) : Prop where
  ends : ∀ file : WorkFile, file.Written →
    (works name).Ends (fun _ => False) (fun _ after => after.Written) program file

section Steps

variable {name : List UInt8}

theorem seek_works (fd : Int) {offset : Int} (natural : 0 ≤ offset) (file : WorkFile) :
    (works name).Ends (fun _ => False) (fun _ after => after = { file with position := offset })
      (seek fd offset) file := by
  refine Observer.ends_ask.mpr fun moved allowed => ?_
  refine Observer.ends_require (fun _ => rfl) fun failed => failed ?_
  have found : moved.value = offset := allowed natural
  omega

theorem readBlock_works (fd : Int) {j : Nat} (below : j < blocksPerFile) {file : WorkFile}
    (written : file.Written) (placed : file.position = j * bytesPerBlock) :
    (works name).Ends (fun _ => False)
      (fun _ after => after.Written ∧ after.position = (j + 1 : Nat) * bytesPerBlock)
      (readBlock fd j) file := by
  refine Observer.ends_ask.mpr fun got allowed => ?_
  rcases allowed j (placed ▸ written j below) with ⟨whole, right⟩
  refine Observer.ends_bind.mpr ?_
  refine Observer.ends_require (fun _ => ?_) fun failed => failed whole
  refine Observer.ends_require (fun _ => ⟨written, ?_⟩) fun failed => failed right
  change file.position + bytesPerBlock = _
  rw [placed, Int.natCast_succ, Int.add_mul, Int.one_mul]

/-- The written file is what it was for, whatever it was before. -/
theorem seqWrite_works (fd : Int) (file : WorkFile) :
    (works name).Ends (fun _ => False) (fun _ after => after.Written) (seqWrite fd) file := by
  refine (seek_works fd (Int.le_refl 0) file).bind fun _ start begun => ?_
  refine Observer.Ends.bind (Observer.ends_forEach (fun turns after =>
    (∀ j < turns, after.blocks (j * bytesPerBlock) = some (j : Int)) ∧
      after.position = turns * bytesPerBlock) ?_ ?_) fun _ after held => ?_
  · intro turns item listed state held
    rw [(turn_of_range listed).1]
    refine Observer.ends_ask.mpr fun answer allowed => ?_
    refine Observer.ends_require (fun _ => ⟨fun j below => ?_, ?_⟩) fun failed => failed allowed
    · change (if (j : Int) * bytesPerBlock = state.position then some (turns : Int)
        else state.blocks (j * bytesPerBlock)) = some (j : Int)
      rw [held.2]
      rcases Nat.lt_or_eq_of_le (Nat.le_of_lt_succ below) with earlier | here
      · have apart : (j : Int) * bytesPerBlock ≠ turns * bytesPerBlock := by
          unfold bytesPerBlock
          omega
        rw [if_neg apart, held.1 j earlier]
      · rw [here, if_pos rfl]
    · change state.position + bytesPerBlock = _
      rw [held.2, Int.natCast_succ, Int.add_mul, Int.one_mul]
  · refine ⟨fun j below => absurd below (Nat.not_lt_zero j), ?_⟩
    rw [begun]
    exact (Int.zero_mul bytesPerBlock).symm
  · rw [List.length_range] at held
    exact Observer.ends_ask.mpr fun _ _ => Observer.ends_pure.mpr held.1

theorem seqRead_works (fd : Int) : Reads name (seqRead fd) := by
  refine ⟨fun file written => ?_⟩
  refine (seek_works fd (Int.le_refl 0) file).bind fun _ start begun => ?_
  refine (Observer.ends_forEach (fun turns after =>
    after.Written ∧ after.position = turns * bytesPerBlock) ?_ ?_).mono fun _ after held => held.1
  · intro turns item listed state held
    rcases turn_of_range listed with ⟨same, below⟩
    rw [same]
    exact readBlock_works fd below held.1 held.2
  · rw [begun]
    exact ⟨written, (Int.zero_mul bytesPerBlock).symm⟩

theorem seekBlock_works (fd : Int) {j : Nat} (below : j < blocksPerFile) :
    Reads name (do seek fd (j * bytesPerBlock); readBlock fd j) := by
  refine ⟨fun file written => ?_⟩
  have natural : 0 ≤ (j : Int) * bytesPerBlock :=
    Int.mul_nonneg (Int.natCast_nonneg j) (by decide)
  have kept : WorkFile.Written { file with position := j * bytesPerBlock } := written
  refine (seek_works fd natural file).bind fun _ start begun => ?_
  rw [begun]
  exact (readBlock_works fd below kept rfl).mono fun _ after held => held.1

theorem nseqRead_works (fd : Int) : Reads name (nseqRead fd) := by
  refine ⟨fun file written => ?_⟩
  refine Observer.ends_forEach (fun _ (after : WorkFile) => after.Written) ?_ written
  intro turns item listed state held
  rcases turn_of_range listed with ⟨same, below⟩
  have lower : turns < blocksPerFile := by
    unfold blocksPerFile at below ⊢
    omega
  have upper : blocksPerFile - (turns + 1) < blocksPerFile := by
    unfold blocksPerFile
    omega
  rw [same]
  have first : Reads name (do seek fd (turns * bytesPerBlock); readBlock fd turns) :=
    seekBlock_works fd lower
  refine Observer.ends_bind.mpr ?_
  refine (Observer.ends_bind.mp (first.ends state held)).mono fun _ middle rest => ?_
  exact rest.bind fun _ after more => (seekBlock_works fd upper).ends after more

/-! ## The other calls -/

theorem Reads.bind {program : Step} {next : Unit → Step} (first : Reads name program)
    (later : Reads name (next ())) : Reads name (program >>= next) :=
  ⟨fun file written => (first.ends file written).bind fun _ after kept => later.ends after kept⟩

theorem reads_ask {request : Syscall} {next : Answer → Step}
    (kept : ∀ file : WorkFile, (file.after name request).blocks = file.blocks)
    (later : ∀ file answer, WorkFile.Allows file answer request → Reads name (next answer)) :
    Reads name (ask request >>= next) := by
  refine ⟨fun file written => Observer.ends_ask.mpr fun answer allowed => ?_⟩
  have still : (file.after name request).Written := by
    intro j below
    rw [kept file]
    exact written j below
  exact (later file answer allowed).ends _ still

theorem reads_done : Reads name (pure ()) :=
  ⟨fun _ written => Observer.ends_pure.mpr written⟩

theorem reads_ignore {request : Syscall}
    (kept : ∀ file : WorkFile, (file.after name request).blocks = file.blocks) :
    Reads name (ignore request) :=
  reads_ask kept fun _ _ _ => reads_done

theorem reads_require {condition : Prop} [Decidable condition] (met : condition) :
    Reads name (require condition) :=
  ⟨fun _ written => Observer.ends_require (fun _ => written) fun failed => failed met⟩

theorem Reads.forEach {body : Nat → Step} (turn : ∀ item, Reads name (body item))
    (items : List Nat) : Reads name (forEach body items) :=
  ⟨fun _ written => Observer.ends_forEach (fun _ (after : WorkFile) => after.Written)
    (fun _ item _ state held => (turn item).ends state held) written⟩

theorem createFile_works (apart : testCreate ≠ name) : Reads name createFile := by
  refine reads_ask (fun file => ?_) fun _ cfd opened => ?_
  · exact congrArg WorkFile.blocks (if_neg apart)
  · exact (reads_require (show 0 ≤ cfd.value from opened)).bind <|
      (reads_ignore fun _ => rfl).bind <| reads_ignore fun _ => rfl

theorem readLinks_works {next : Unit → Step} (later : Reads name (next ())) {file : WorkFile}
    (written : file.Written) (linked : file.linked = true) (items : List Nat) :
    (works name).Ends (fun _ => False) (fun _ after => after.Written)
      (forEach (fun _ => readLink) items >>= next) file := by
  refine Observer.Ends.bind (Observer.ends_forEach (fun _ (after : WorkFile) =>
    after.Written ∧ after.linked = true) ?_ ⟨written, linked⟩) fun _ after held =>
      later.ends after held.1
  intro _ _ _ state held
  refine Observer.ends_ask.mpr fun got allowed => ?_
  exact Observer.ends_require (fun _ => held) fun failed => failed (allowed held.2)

theorem fileTurn_works (pid : Int) {i : Nat} (apart : testCreate ≠ padded i) (file : WorkFile) :
    (works (padded i)).Ends (fun _ => False) (fun _ after => after.Written) (fileTurn pid i)
      file := by
  refine Observer.ends_ask.mpr fun fd opened => ?_
  refine Observer.ends_bind.mpr (Observer.ends_require (fun _ => ?_) fun failed => failed opened)
  refine (seqWrite_works fd.value _).bind fun _ filled written => ?_
  refine ((seqRead_works fd.value).ends filled written).bind fun _ checked written => ?_
  refine Observer.ends_ask.mpr fun linked allowed => ?_
  refine Observer.ends_bind.mpr (Observer.ends_require (fun _ => ?_) fun failed => failed allowed)
  have there : ((works (padded i)).next checked
      (.symlink (literal "/aaa/bbb/ccc/ddd/eee/fff") testLink) linked).linked = true := rfl
  have kept : ((works (padded i)).next checked
      (.symlink (literal "/aaa/bbb/ccc/ddd/eee/fff") testLink) linked).Written := written
  have creates := Reads.forEach (fun _ => createFile_works apart) (List.range fileCreates)
  have lookup (j : Nat) : Reads (padded i) (lookUp pid i j) := reads_ignore fun _ => rfl
  have lookups := Reads.forEach lookup (List.range fileLookups)
  refine readLinks_works ?_ kept there (List.range nReadLink)
  refine (nseqRead_works fd.value).bind <| (reads_ignore fun _ => rfl).bind <|
    creates.bind <| (seqRead_works fd.value).bind <| (reads_ignore fun _ => rfl).bind <|
    (seqRead_works fd.value).bind <| lookups.bind <| (seqRead_works fd.value).bind <|
    (nseqRead_works fd.value).bind <| (seqRead_works fd.value).bind <|
    (seqRead_works fd.value).bind <| (seqRead_works fd.value).bind <|
    (nseqRead_works fd.value).bind <| (reads_ignore fun _ => rfl).bind <|
    reads_ask (fun _ => rfl) fun _ renamed agreed => ?_
  refine (reads_require (show renamed.value = 0 from agreed)).bind <|
    reads_ask (fun _ => rfl) fun _ removed gone => ?_
  exact (reads_require (show removed.value = 0 ∨ removed.errno = .noEntry from gone)).bind <|
    reads_ignore fun _ => rfl

end Steps

/-! ## A whole child -/

theorem doChild_works (pid : Int) (dir : List UInt8) (file : WorkFile) :
    (works (padded 0)).Ends (fun _ => False) (fun _ _ => True) (doChild pid dir) file := by
  refine Observer.ends_ask.mpr fun entered allowed => ?_
  refine Observer.ends_bind.mpr (Observer.ends_require (fun _ => ?_) fun failed => failed allowed)
  refine Observer.ends_forEach (fun _ _ => True) ?_ trivial
  intro turns item listed state _
  rcases turn_of_range listed with ⟨same, below⟩
  have only : item = 0 := same.trans (Nat.lt_one_iff.mp below)
  rw [only]
  exact (fileTurn_works pid (by decide) state).mono fun _ _ _ => trivial

theorem exits_of_described {Server : Type} {answer : Server → Syscall → Answer × Server}
    {related : Server → WorkFile → Prop}
    (described : (works (padded 0)).Describes answer related) (pid : Int) (dir : List UInt8)
    {server : Server} {file : WorkFile} (start : related server file) :
    ((doChild pid dir).run answer server).result = some () := by
  have ended := (doChild_works pid dir file).run described server start
  cases came : ((doChild pid dir).run answer server).result with
  | none =>
      rw [came] at ended
      exact ended.elim
  | some result => rfl

/-- On every server that works, a child ends well: it makes all of the counted calls, and none of
its checks takes what was read for corrupted. -/
theorem doChild_exitsOk {Server : Type} {answer : Server → Syscall → Answer × Server}
    {related : Server → WorkFile → Prop}
    (described : (works (padded 0)).Describes answer related) (pid : Int) (dir : List UInt8)
    {server : Server} {file : WorkFile} (start : related server file) :
    ((doChild pid dir).run answer server).result = some () ∧
      (seenIn ((doChild pid dir).run answer server).trace).stones = filesPerDir * fileStones ∧
      (seenIn ((doChild pid dir).run answer server).trace).misread = 0 := by
  have exits := exits_of_described described pid dir start
  have gained := gains_of_exits answer pid dir server exits
  exact ⟨exits, gained.stones.trans (Nat.zero_add _), gained.misread⟩

/-! ## A server -/

def WorkFile.empty : WorkFile where
  blocks := fun _ => none
  position := 0
  linked := false

/-- A server whose state is the file of the child. -/
def WorkFile.reply (file : WorkFile) : Syscall → Answer
  | .openFile _ => { value := 3, errno := .other, first := 0 }
  | .lseek _ offset => { value := offset, errno := .other, first := 0 }
  | .write _ first => { value := bytesPerBlock, errno := .other, first := first }
  | .read _ =>
      match file.blocks file.position with
      | some first => { value := bytesPerBlock, errno := .other, first := first }
      | none => { value := 0, errno := .other, first := 0 }
  | _ => { value := 0, errno := .other, first := 0 }

def fileServer (file : WorkFile) (call : Syscall) : Answer × WorkFile :=
  (file.reply call, file.after (padded 0) call)

theorem fileServer_described : (works (padded 0)).Describes fileServer (· = ·) where
  allowed := by
    rintro server _ rfl request
    cases request with
    | read fd =>
        intro first held
        change (server.reply (.read fd)).value = _ ∧ (server.reply (.read fd)).first = _
        unfold WorkFile.reply
        rw [held]
        exact ⟨rfl, rfl⟩
    | lseek fd offset => exact fun _ => rfl
    | openFile name => exact Int.natCast_nonneg 3
    | symlink target name => exact Or.inl rfl
    | unlink name => exact Or.inl rfl
    | readlink name => exact fun _ => show (0 : Int) ≠ -1 by decide
    | chdir dir => exact rfl
    | write fd first => exact rfl
    | rename old new => exact rfl
    | fsync fd => trivial
    | close fd => trivial
    | access name => trivial
    | sync => trivial
  next := by
    rintro server _ rfl request
    rfl

theorem doChild_exitsOk_empty :
    ((doChild 7 (literal "d")).run fileServer WorkFile.empty).result = some () ∧
      (seenIn ((doChild 7 (literal "d")).run fileServer WorkFile.empty).trace).stones =
        filesPerDir * fileStones ∧
      (seenIn ((doChild 7 (literal "d")).run fileServer WorkFile.empty).trace).misread = 0 :=
  doChild_exitsOk fileServer_described 7 (literal "d") rfl

/-- On any file server, a child that ends well has made all of the counted calls, and every read
has given it a whole block with the number of its position. -/
theorem doChild_counts {Server : Type} (answer : Server → Syscall → Answer × Server) (pid : Int)
    (dir : List UInt8) (server : Server)
    (exits : ((doChild pid dir).run answer server).result = some ()) :
    (seenIn ((doChild pid dir).run answer server).trace).stones = filesPerDir * fileStones ∧
      (seenIn ((doChild pid dir).run answer server).trace).misread = 0 := by
  have gained := gains_of_exits answer pid dir server exits
  exact ⟨gained.stones.trans (Nat.zero_add _), gained.misread⟩

theorem doChild_counts_empty :
    (seenIn ((doChild 7 (literal "d")).run fileServer WorkFile.empty).trace).stones =
        filesPerDir * fileStones ∧
      (seenIn ((doChild 7 (literal "d")).run fileServer WorkFile.empty).trace).misread = 0 :=
  doChild_counts fileServer 7 (literal "d") WorkFile.empty
    (exits_of_described fileServer_described 7 (literal "d") rfl)

end Nfsstone
end Ipbench
