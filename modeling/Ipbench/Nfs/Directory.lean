import Ipbench.Nfs.ExportList
import Ipbench.Nfs.Replies

namespace Ipbench
namespace Nfs

open Foundation

/-!
# Decoding a directory

`nfs_readdir_cb` reads the entries of a reply twice.  The first pass counts them,
an array of that many names is allocated, and the second pass fills it.  Nothing
in the second pass looks at the size of the array, and a name is a position in the
reply and a length that may be anything.

Both passes move the cursor alike, whatever the reply holds, so the second one
meets as many entries as were counted.  A length below zero moves the cursor back;
the array is still filled exactly, if the first pass comes to an end.

The word behind the list, which says whether the directory ends here, is read and
forgotten: `getentries_readdir` clears its own pointer to the cookie.
-/

/-! ## The two passes -/

/-- `struct nfs_filename`.  The file points into the buffer of the reply. -/
structure NfsFilename where
  size : Int
  file : Int
deriving DecidableEq, Repr

/-- The loop of `getentries_readdir`: the cookie, the count, and the buffer behind
the list.  Without fuel it has not ended. -/
def countLoop (order : ByteOrder) :
    Nat → Pbuf → UInt32 → Nat → Except Fault (Option (UInt32 × Nat × Pbuf))
  | 0, _, _, _ => pure none
  | fuel + 1, pbuf, cookie, count => do
      let (tmp, pbuf) ← pbuf.getWord order
      if tmp = 0 then pure (some (cookie, count, pbuf))
      else
        let (_, pbuf) ← pbuf.getWord order
        let pbuf ← pbuf.skipstring order
        let (cookie, pbuf) ← pbuf.getWord order
        countLoop order fuel pbuf cookie (count + 1)

/-- `getentries_readdir`, which leaves the cursor where it was. -/
def getentriesReaddir (order : ByteOrder) (fuel : Nat) (pbuf : Pbuf) (cookie : UInt32) :
    Except Fault (Option (Nat × UInt32)) := do
  match ← countLoop order fuel pbuf cookie 0 with
  | none => pure none
  | some (cookie, count, pbuf) =>
      let _ ← pbuf.getWord order
      pure (some (count, cookie))

/-- The loop of `nfs_readdir_cb`, which fills a block of names. -/
def entriesLoop (order : ByteOrder) :
    Nat → Pbuf → List NfsFilename → Nat → Except Fault (Option (List NfsFilename))
  | 0, _, _, _ => pure none
  | fuel + 1, pbuf, entries, count => do
      let (tmp, pbuf) ← pbuf.getWord order
      if tmp = 0 then pure (some entries)
      else
        let (_, pbuf) ← pbuf.getWord order
        let (size, pbuf) ← pbuf.getWord order
        if entries.length ≤ count then .error .outside
        else
          let entries := entries.set count { size := asInt32 size, file := pbuf.pos }
          let padsize ← padSize (asInt32 size)
          let (_, pbuf) ← (pbuf.skip padsize).getWord order
          entriesLoop order fuel pbuf entries (count + 1)

/-- What the caller's function receives. -/
structure Listing where
  status : Int
  numEntries : Nat
  entries : List NfsFilename
  nextCookie : UInt32
deriving DecidableEq, Repr

/-- `nfs_readdir_cb` up to the call of the callback.  The block of names holds
anything when it comes from `malloc`. -/
def nfsReaddirCb (order : ByteOrder) (fuel : Nat) (contents : Nat → NfsFilename) (pbuf : Pbuf) :
    Except Fault (Option Listing) := do
  let (err, pbuf) ← checkErrors order pbuf
  if err = 0 then
    let (status, pbuf) ← pbuf.getWord order
    if status = nfsOk then
      match ← getentriesReaddir order fuel pbuf 0 with
      | none => pure none
      | some (numEntries, nextCookie) =>
          let entries := (List.range numEntries).map contents
          match ← entriesLoop order fuel pbuf entries 0 with
          | none => pure none
          | some entries =>
              pure (some
                { status := asInt32 status
                  numEntries := numEntries
                  entries := entries
                  nextCookie := nextCookie })
    else
      pure (some { status := asInt32 status, numEntries := 0, entries := [], nextCookie := 0 })
  else pure (some { status := -1, numEntries := 0, entries := [], nextCookie := 0 })

/-! ## Entries that are met -/

/-- A name that lies inside the buffer.  With a length below zero it is no text. -/
def NfsFilename.Inside (name : NfsFilename) : Prop :=
  0 ≤ name.file ∧ name.file + name.size ≤ pbufSize

/-- A word that can be read lies inside the buffer. -/
theorem Pbuf.getWord_inside {order : ByteOrder} {pbuf next : Pbuf} {word : UInt32}
    (read : pbuf.getWord order = .ok (word, next)) :
    0 ≤ pbuf.pos ∧ pbuf.pos + 4 ≤ pbufSize ∧ next.pos = pbuf.pos + 4 := by
  unfold Pbuf.getWord Pbuf.getfrombuf at read
  dsimp only at read
  split at read
  · cases read
  · split at read
    · cases read
    · cases read
      refine ⟨by omega, by omega, rfl⟩

theorem padSize_ge {size padsize : Int} (padded : padSize size = .ok padsize) :
    size ≤ padsize := by
  unfold padSize at padded
  split at padded
  · cases padded
    exact Int.le_refl _
  · split at padded
    · cases padded
    · cases padded
      have short := Int.tmod_lt_of_pos size (show (0 : Int) < 4 by decide)
      omega

/-- If the first pass ends, so does the second, and it fills the places of the
entries that were counted, with names that do not depend on what was there. -/
theorem entriesLoop_of_countLoop {order : ByteOrder} {fuel : Nat} {pbuf after : Pbuf}
    {cookie next : UInt32} {count total : Nat}
    (ended : countLoop order fuel pbuf cookie count = .ok (some (next, total, after))) :
    ∃ names : List NfsFilename, count + names.length = total ∧
      (∀ name ∈ names, name.Inside) ∧
      ∀ done rest : List NfsFilename, done.length = count → rest.length = names.length →
        entriesLoop order fuel pbuf (done ++ rest) count = .ok (some (done ++ names)) := by
  induction fuel generalizing pbuf cookie count with
  | zero => cases ended
  | succ fuel inductionHypothesis =>
      rcases bind_eq_ok.mp ended with ⟨⟨tmp, flagged⟩, gotFlag, ended⟩
      dsimp only at ended
      by_cases more : tmp = 0
      · rw [if_pos more] at ended
        cases ended
        refine ⟨[], rfl, by simp, fun done rest _ short => bind_eq_ok.mpr ⟨_, gotFlag, ?_⟩⟩
        rw [List.length_eq_zero_iff.mp short]
        dsimp only
        rw [if_pos more]
        rfl
      · rw [if_neg more] at ended
        rcases bind_eq_ok.mp ended with ⟨⟨_, identified⟩, gotFile, ended⟩
        rcases bind_eq_ok.mp ended with ⟨skipped, gotName, ended⟩
        rcases bind_eq_ok.mp gotName with ⟨⟨size, sized⟩, gotSize, padding⟩
        rcases bind_eq_ok.mp padding with ⟨padsize, padded, moved⟩
        cases moved
        rcases bind_eq_ok.mp ended with ⟨⟨_, later⟩, gotCookie, counted⟩
        rcases inductionHypothesis counted with ⟨names, total, inside, filled⟩
        refine ⟨{ size := asInt32 size, file := sized.pos } :: names, ?_, ?_, ?_⟩
        · rw [List.length_cons]
          omega
        · have before := Pbuf.getWord_inside gotSize
          have behind := Pbuf.getWord_inside gotCookie
          have longer := padSize_ge padded
          change 0 ≤ sized.pos + padsize ∧ sized.pos + padsize + 4 ≤ pbufSize ∧ _ at behind
          refine List.forall_mem_cons.mpr ⟨⟨?_, ?_⟩, inside⟩
          · change 0 ≤ sized.pos
            omega
          · change sized.pos + asInt32 size ≤ pbufSize
            omega
        · intro done rest front room
          cases rest with
          | nil => cases room
          | cons first rest =>
              refine bind_eq_ok.mpr ⟨_, gotFlag, ?_⟩
              dsimp only
              rw [if_neg more]
              refine bind_eq_ok.mpr ⟨_, gotFile, bind_eq_ok.mpr ⟨_, gotSize, ?_⟩⟩
              dsimp only
              rw [if_neg (by rw [List.length_append, List.length_cons]; omega)]
              refine bind_eq_ok.mpr ⟨_, padded, bind_eq_ok.mpr ⟨_, gotCookie, ?_⟩⟩
              have next := filled (done ++ [{ size := asInt32 size, file := sized.pos }]) rest
                (by rw [List.length_append, front, List.length_singleton]) (Nat.succ.inj room)
              rw [List.set_append_right _ _ (Nat.le_of_eq front), front, Nat.sub_self]
              simpa using next

/-- What the first pass finds: nothing behind a status other than `NFS_OK`. -/
def firstPass (order : ByteOrder) (fuel : Nat) (data : List UInt8) :
    Except Fault (Option (Nat × UInt32)) :=
  if lookupStatus (receivedPbuf data).buf = 0 then
    getentriesReaddir order fuel ((receivedPbuf data).at_ 28) 0
  else .ok (some (0, 0))

/-- A status other than `NFS_OK` is all that is handed over. -/
theorem nfsReaddirCb_failed (order : ByteOrder) (fuel : Nat) (contents : Nat → NfsFilename)
    {data : List UInt8} (failed : lookupStatus (receivedPbuf data).buf ≠ 0) :
    nfsReaddirCb order fuel contents (receivedPbuf data) =
      .ok (some
        { status := lookupStatus (receivedPbuf data).buf
          numEntries := 0
          entries := []
          nextCookie := 0 }) := by
  rcases checkErrors_received order data with ⟨cursor, checked, behind⟩
  unfold nfsReaddirCb
  simp only [bind, Except.bind, checked]
  by_cases accepted : headerStatus (receivedPbuf data).buf = 0
  · have status : lookupStatus (receivedPbuf data).buf =
        asInt32 (wordAt (receivedPbuf data).buf 24) := if_pos accepted
    rw [status, Ne, asInt32_eq_nfsOk] at failed
    rw [if_pos accepted, behind accepted, Pbuf.getWord_at order _ rfl (by decide), status]
    dsimp only
    rw [if_neg failed]
    rfl
  · have status : lookupStatus (receivedPbuf data).buf = -1 := if_neg accepted
    rw [if_neg accepted, status]
    rfl

/-- Behind `NFS_OK` the two passes begin at the same place. -/
theorem nfsReaddirCb_ok (order : ByteOrder) (fuel : Nat) (contents : Nat → NfsFilename)
    {data : List UInt8} (ok : lookupStatus (receivedPbuf data).buf = 0) :
    nfsReaddirCb order fuel contents (receivedPbuf data) =
      getentriesReaddir order fuel ((receivedPbuf data).at_ 28) 0 >>= fun counted =>
        match counted with
        | none => pure none
        | some (numEntries, nextCookie) =>
            entriesLoop order fuel ((receivedPbuf data).at_ 28)
                ((List.range numEntries).map contents) 0 >>= fun filled =>
              pure (filled.map fun entries =>
                { status := 0
                  numEntries := numEntries
                  entries := entries
                  nextCookie := nextCookie }) := by
  rcases checkErrors_received order data with ⟨cursor, checked, behind⟩
  have accepted : headerStatus (receivedPbuf data).buf = 0 := by
    by_contra refused
    rw [lookupStatus, if_neg refused] at ok
    cases ok
  have word : wordAt (receivedPbuf data).buf 24 = nfsOk := by
    rw [lookupStatus, if_pos accepted, asInt32_eq_nfsOk] at ok
    exact ok
  have zero : asInt32 nfsOk = 0 := rfl
  unfold nfsReaddirCb
  simp only [bind, Except.bind, checked]
  rw [if_pos accepted, behind accepted, Pbuf.getWord_at order _ rfl (by decide)]
  dsimp only
  rw [if_pos word, word, zero]
  cases getentriesReaddir order fuel ((receivedPbuf data).at_ 28) 0 with
  | error fault => rfl
  | ok counted =>
      cases counted with
      | none => rfl
      | some found =>
          dsimp only
          cases entriesLoop order fuel ((receivedPbuf data).at_ 28)
            ((List.range found.1).map contents) 0 with
          | error fault => rfl
          | ok filled =>
              cases filled with
              | none => rfl
              | some entries => rfl

/-- Every datagram is decoded as its first pass says: the callback receives exactly
the entries that were counted, the same ones whatever the block of names held, and
every name lies inside the buffer.  No fault comes from the second pass. -/
theorem nfsReaddirCb_fillsWhatItCounts (order : ByteOrder) (fuel : Nat) (data : List UInt8) :
    ∃ names : List NfsFilename, (∀ name ∈ names, name.Inside) ∧
      (∀ numEntries nextCookie,
        firstPass order fuel data = .ok (some (numEntries, nextCookie)) →
          names.length = numEntries) ∧
      ∀ contents, nfsReaddirCb order fuel contents (receivedPbuf data) =
        (firstPass order fuel data).map (Option.map fun found =>
          { status := lookupStatus (receivedPbuf data).buf
            numEntries := found.1
            entries := names
            nextCookie := found.2 }) := by
  unfold firstPass
  by_cases ok : lookupStatus (receivedPbuf data).buf = 0
  swap
  · rw [if_neg ok]
    refine ⟨[], by simp, ?_, fun contents => nfsReaddirCb_failed order fuel contents ok⟩
    intro numEntries nextCookie same
    cases same
    rfl
  rw [if_pos ok]
  cases counted : getentriesReaddir order fuel ((receivedPbuf data).at_ 28) 0 with
  | error fault =>
      refine ⟨[], by simp, (fun _ _ impossible => by cases impossible), fun contents => ?_⟩
      rw [nfsReaddirCb_ok order fuel contents ok, counted]
      rfl
  | ok found =>
      cases found with
      | none =>
          refine ⟨[], by simp, (fun _ _ impossible => by cases impossible), fun contents => ?_⟩
          rw [nfsReaddirCb_ok order fuel contents ok, counted]
          rfl
      | some found =>
          rcases found with ⟨numEntries, nextCookie⟩
          rcases bind_eq_ok.mp counted with ⟨looped, ended, finished⟩
          cases looped with
          | none => cases finished
          | some after =>
              rcases after with ⟨cookie, count, after⟩
              rcases bind_eq_ok.mp finished with ⟨eof, gotEof, same⟩
              cases same
              rcases entriesLoop_of_countLoop ended with ⟨names, total, inside, filled⟩
              refine ⟨names, inside, ?_, fun contents => ?_⟩
              · intro numEntries nextCookie same
                cases same
                rw [Nat.zero_add] at total
                exact total
              · have full := filled [] ((List.range numEntries).map contents) rfl
                  (by rw [List.length_map, List.length_range, ← total, Nat.zero_add])
                rw [nfsReaddirCb_ok order fuel contents ok, counted, ok]
                rw [List.nil_append, List.nil_append] at full
                exact bind_eq_ok.mpr ⟨_, rfl, bind_eq_ok.mpr ⟨_, full, rfl⟩⟩

/-! ## A directory as it travels -/

/-- An entry: the word before it, its number and name, what fills the last word of
the name, and the cookie behind it. -/
structure DirEntry where
  flag : UInt32
  fileid : UInt32
  name : List UInt8
  fill : List UInt8
  cookie : UInt32
  more : flag ≠ 0
  filled : fill.length = (4 - name.length % 4) % 4

namespace DirEntry

def encoding (entry : DirEntry) : List UInt8 :=
  store32 .big entry.flag ++ (store32 .big entry.fileid ++
    ((store32 .big (UInt32.ofNat entry.name.length) ++ entry.name ++ entry.fill) ++
      store32 .big entry.cookie))

theorem encoding_length (entry : DirEntry) :
    entry.encoding.length = 16 + paddedLength entry.name.length := by
  have fill := entry.filled
  simp only [encoding, List.length_append, store32_length, paddedLength]
  omega

theorem encoding_mod (entry : DirEntry) : entry.encoding.length % 4 = 0 := by
  have whole := paddedLength_mod entry.name.length
  rw [encoding_length]
  omega

end DirEntry

/-- `readdirres`, with the word that says whether the directory ends here. -/
def readdirResults (entries : List DirEntry) (eof : UInt32) : List UInt8 :=
  store32 .big nfsOk ++ (listEncoding (entries.map DirEntry.encoding) ++ store32 .big eof)

/-- The reply to a request for a directory. -/
def readdirReply (xid flavour : UInt32) (entries : List DirEntry) (eof : UInt32) : Reply :=
  successReply xid flavour (readdirResults entries eof)

/-- The cookie of the last entry, or this one. -/
def lastCookie (cookie : UInt32) (entries : List DirEntry) : UInt32 :=
  (entries.getLast?.map DirEntry.cookie).getD cookie

/-- The names of entries that stand at a position. -/
def namesAt : Nat → List DirEntry → List NfsFilename
  | _, [] => []
  | position, entry :: rest =>
      { size := entry.name.length, file := (position + 12 : Nat) } ::
        namesAt (position + entry.encoding.length) rest

/-- The bytes that a name points to. -/
def NfsFilename.text (name : NfsFilename) (buf : List UInt8) : List UInt8 :=
  (buf.drop name.file.toNat).take name.size.toNat

theorem lastCookie_cons (cookie : UInt32) (entry : DirEntry) (rest : List DirEntry) :
    lastCookie cookie (entry :: rest) = lastCookie entry.cookie rest := by
  cases rest with
  | nil => rfl
  | cons second rest =>
      unfold lastCookie
      rw [List.getLast?_cons_cons]
      rfl

section Passes

variable {pbuf : Pbuf} {position : Nat}

structure EntryRead (order : ByteOrder) (pbuf : Pbuf) (position : Nat) (entry : DirEntry) :
    Prop where
  flag : (pbuf.at_ position).getWord order = .ok (entry.flag, pbuf.at_ (position + 4))
  fileid : (pbuf.at_ (position + 4)).getWord order =
    .ok (entry.fileid, pbuf.at_ (position + 8))
  size : (pbuf.at_ (position + 8)).getWord order =
    .ok (UInt32.ofNat entry.name.length, pbuf.at_ (position + 12))
  number : asInt32 (UInt32.ofNat entry.name.length) = entry.name.length
  padded : padSize entry.name.length = .ok (paddedLength entry.name.length : Nat)
  cookie : (pbuf.at_ (position + 12 + paddedLength entry.name.length)).getWord order =
    .ok (entry.cookie, pbuf.at_ (position + entry.encoding.length))
  text : (pbuf.buf.drop (position + 12)).take entry.name.length = entry.name

theorem DirEntry.read {entry : DirEntry} (holds : pbuf.Holds position entry.encoding)
    (order : ByteOrder) (aligned : position % 4 = 0) (within : position ≤ pbufSize) :
    EntryRead order pbuf position entry := by
  have whole := paddedLength_mod entry.name.length
  have length := entry.encoding_length
  have inside := holds.inside within
  have flag := holds.left
  have fileid := holds.right.left
  have name := holds.right.right.left
  have cookie := holds.right.right.right
  have fill := entry.filled
  have behind : position + 4 + 4 + (store32 .big (UInt32.ofNat entry.name.length) ++ entry.name ++
      entry.fill).length = position + 12 + paddedLength entry.name.length := by
    simp only [List.length_append, store32_length, fill, paddedLength]
    omega
  simp only [store32_length] at fileid name cookie
  rw [behind] at cookie
  have text := name.left.right.take_eq
  rw [store32_length] at text
  have small : entry.name.length < 0x7FFFFFF0 := by
    unfold paddedLength at length
    unfold pbufSize at inside
    omega
  refine ⟨flag.getWord order aligned within, fileid.getWord order (by omega) (by omega),
    name.left.left.getWord order (by omega) (by omega), Pbuf.asInt32_ofNat (by omega),
    Pbuf.padSize_natCast small, ?_, text⟩
  have read := cookie.getWord order (by omega) (by omega)
  have next : position + 12 + paddedLength entry.name.length + 4 =
      position + entry.encoding.length := by omega
  rwa [next] at read

/-- The first pass counts the entries that stand ahead. -/
theorem countLoop_of_entries (order : ByteOrder) (cookie : UInt32) (count : Nat)
    {entries : List DirEntry} {fuel : Nat}
    (holds : pbuf.Holds position (listEncoding (entries.map DirEntry.encoding)))
    (aligned : position % 4 = 0) (within : position ≤ pbufSize)
    (enough : entries.length < fuel) :
    countLoop order fuel (pbuf.at_ position) cookie count =
      .ok (some (lastCookie cookie entries, count + entries.length,
        pbuf.at_ (position + (listEncoding (entries.map DirEntry.encoding)).length))) := by
  induction entries generalizing fuel count cookie position with
  | nil =>
      cases fuel with
      | zero => cases enough
      | succ fuel =>
          have read := Pbuf.Holds.getWord holds order aligned within
          exact bind_eq_ok.mpr ⟨_, read, rfl⟩
  | cons entry rest inductionHypothesis =>
      cases fuel with
      | zero => cases enough
      | succ fuel =>
          rw [List.map_cons, listEncoding_cons] at holds ⊢
          have whole := entry.encoding_mod
          have read := entry.read holds.left order aligned within
          have inside := holds.left.inside within
          have skipped : (pbuf.at_ (position + 8)).skipstring order =
              .ok (pbuf.at_ (position + 12 + paddedLength entry.name.length)) := by
            refine bind_eq_ok.mpr ⟨_, read.size, ?_⟩
            dsimp only
            rw [read.number, read.padded]
            exact congrArg Except.ok (pbuf.skip_at _ _)
          refine bind_eq_ok.mpr ⟨_, read.flag, ?_⟩
          dsimp only
          rw [if_neg entry.more]
          refine bind_eq_ok.mpr ⟨_, read.fileid, bind_eq_ok.mpr ⟨_, skipped,
            bind_eq_ok.mpr ⟨_, read.cookie, ?_⟩⟩⟩
          rw [lastCookie_cons, List.length_append, ← Nat.add_assoc, List.length_cons,
            Nat.add_comm rest.length 1, ← Nat.add_assoc]
          exact inductionHypothesis entry.cookie (count + 1) holds.right (by omega) inside
            (Nat.lt_of_succ_lt_succ enough)

/-- The second pass points at the names of the entries that stand ahead. -/
theorem entriesLoop_of_entries (order : ByteOrder) {entries : List DirEntry} {fuel : Nat}
    (holds : pbuf.Holds position (listEncoding (entries.map DirEntry.encoding)))
    (aligned : position % 4 = 0) (within : position ≤ pbufSize)
    (enough : entries.length < fuel) (done rest : List NfsFilename)
    (room : rest.length = entries.length) :
    entriesLoop order fuel (pbuf.at_ position) (done ++ rest) done.length =
      .ok (some (done ++ namesAt position entries)) := by
  induction entries generalizing fuel position done rest with
  | nil =>
      cases fuel with
      | zero => cases enough
      | succ fuel =>
          have read := Pbuf.Holds.getWord holds order aligned within
          rw [List.length_eq_zero_iff.mp room]
          exact bind_eq_ok.mpr ⟨_, read, rfl⟩
  | cons entry entries inductionHypothesis =>
      cases fuel with
      | zero => cases enough
      | succ fuel =>
          cases rest with
          | nil => cases room
          | cons first rest =>
              rw [List.map_cons, listEncoding_cons] at holds
              have whole := entry.encoding_mod
              have read := entry.read holds.left order aligned within
              have inside := holds.left.inside within
              refine bind_eq_ok.mpr ⟨_, read.flag, ?_⟩
              dsimp only
              rw [if_neg entry.more]
              refine bind_eq_ok.mpr ⟨_, read.fileid, bind_eq_ok.mpr ⟨_, read.size, ?_⟩⟩
              dsimp only
              rw [if_neg (by rw [List.length_append, List.length_cons]; omega), read.number,
                List.set_append_right _ _ (Nat.le_refl _), Nat.sub_self]
              refine bind_eq_ok.mpr ⟨_, read.padded, ?_⟩
              rw [pbuf.skip_at]
              refine bind_eq_ok.mpr ⟨_, read.cookie, ?_⟩
              have later := inductionHypothesis holds.right (by omega) inside
                (Nat.lt_of_succ_lt_succ enough)
                (done ++ [{ size := entry.name.length, file := (position + 12 : Nat) }]) rest
                (Nat.succ.inj room)
              rw [List.length_append, List.length_singleton, List.append_assoc, List.append_assoc]
                at later
              exact later

/-- The names that are pointed at are those of the entries. -/
theorem namesAt_text {entries : List DirEntry}
    (holds : pbuf.Holds position (listEncoding (entries.map DirEntry.encoding)))
    (aligned : position % 4 = 0) (within : position ≤ pbufSize) :
    (namesAt position entries).map (fun name => name.text pbuf.buf) =
      entries.map DirEntry.name := by
  induction entries generalizing position with
  | nil => rfl
  | cons entry rest inductionHypothesis =>
      rw [List.map_cons, listEncoding_cons] at holds
      have whole := entry.encoding_mod
      have read := entry.read holds.left .big aligned within
      have inside := holds.left.inside within
      rw [namesAt, List.map_cons, List.map_cons,
        inductionHypothesis holds.right (by omega) inside]
      exact congrArg (· :: rest.map DirEntry.name) read.text

end Passes

/-- A reply that fits carries `NFS_OK` and, behind it, the list and its end. -/
theorem readdirReply_holds {xid flavour eof : UInt32} {entries : List DirEntry}
    (fits : (readdirReply xid flavour entries eof).encoding.length ≤ pbufSize) :
    lookupStatus (receivedPbuf (readdirReply xid flavour entries eof).encoding).buf = 0 ∧
      (receivedPbuf (readdirReply xid flavour entries eof).encoding).Holds 28
        (listEncoding (entries.map DirEntry.encoding) ++ store32 .big eof) := by
  rcases successReply_holds fits with ⟨accepted, results⟩
  rw [readdirResults] at results
  constructor
  · exact (lookupStatus_accepted accepted).trans (congrArg asInt32 results.left.wordAt)
  · have list := results.right
    rwa [store32_length] at list

/-- A directory in a reply without a body in its verifier is decoded: the names are
those of the entries, and the cookie is that of the last one.  Whether the
directory ends there is not told. -/
theorem nfsReaddirCb_decodes (order : ByteOrder) (xid flavour eof : UInt32)
    (entries : List DirEntry) (contents : Nat → NfsFilename) (fuel : Nat)
    (fits : (readdirReply xid flavour entries eof).encoding.length ≤ pbufSize)
    (enough : entries.length < fuel) :
    ∃ listing,
      nfsReaddirCb order fuel contents
          (receivedPbuf (readdirReply xid flavour entries eof).encoding) = .ok (some listing) ∧
        listing.status = 0 ∧ listing.numEntries = entries.length ∧
        listing.entries.map (fun name =>
          name.text (receivedPbuf (readdirReply xid flavour entries eof).encoding).buf) =
            entries.map DirEntry.name ∧
        listing.nextCookie = lastCookie 0 entries := by
  rcases readdirReply_holds fits with ⟨ok, holds⟩
  have counted := countLoop_of_entries order 0 0 holds.left rfl (by decide) enough
  have end_ := holds.left.inside (by decide)
  have whole : (listEncoding (entries.map DirEntry.encoding)).length % 4 = 0 := by
    apply listEncoding_mod
    intro bytes member
    rcases List.mem_map.mp member with ⟨entry, _, rfl⟩
    exact entry.encoding_mod
  have gotEof := holds.right.getWord order (by omega) end_
  have filled := entriesLoop_of_entries order holds.left rfl (by decide) enough []
    ((List.range entries.length).map contents) (by rw [List.length_map, List.length_range])
  refine ⟨⟨0, entries.length, namesAt 28 entries, lastCookie 0 entries⟩, ?_, rfl, rfl,
    namesAt_text holds.left rfl (by decide), rfl⟩
  rw [nfsReaddirCb_ok order fuel contents ok]
  rw [Nat.zero_add] at counted
  refine bind_eq_ok.mpr ⟨_, bind_eq_ok.mpr ⟨_, counted, bind_eq_ok.mpr ⟨_, gotEof, rfl⟩⟩, ?_⟩
  exact bind_eq_ok.mpr ⟨_, filled, rfl⟩

theorem one_ne_zero_word : (1 : UInt32) ≠ 0 := fun same =>
  Nat.one_ne_zero (congrArg UInt32.toNat same)

/-- An entry as a server writes it, with zeros behind its name. -/
def DirEntry.plain (fileid : UInt32) (name : List UInt8) (cookie : UInt32) : DirEntry where
  flag := 1
  fileid := fileid
  name := name
  fill := padding name.length
  cookie := cookie
  more := one_ne_zero_word
  filled := padding_length name.length

/-- The two entries of an empty directory. -/
def dotEntries : List DirEntry :=
  [.plain 2 [46] 1, .plain 2 [46, 46] 2]

theorem nfsReaddirCb_decodes_two :
    ∃ listing,
      nfsReaddirCb .little 3 (fun _ => { size := 0, file := 0 })
          (receivedPbuf (readdirReply 101 0 dotEntries 1).encoding) = .ok (some listing) ∧
        listing.status = 0 ∧ listing.numEntries = dotEntries.length ∧
        listing.entries.map (fun name =>
          name.text (receivedPbuf (readdirReply 101 0 dotEntries 1).encoding).buf) =
            dotEntries.map DirEntry.name ∧
        listing.nextCookie = lastCookie 0 dotEntries :=
  nfsReaddirCb_decodes .little 101 0 1 dotEntries (fun _ => { size := 0, file := 0 }) 3
    (by decide) (by decide)

end Nfs
end Ipbench
