import Ipbench.Nfs.ReplyStatus
import Ipbench.Nfs.Wire

namespace Ipbench
namespace Nfs

open Foundation

/-!
# Decoding the list of exports

`mnt_get_export_list` reads two nested lists whose lengths are nowhere stated: a
word before each entry says that there is one.  Each name goes into a block of a
hundred bytes.  Nothing looks at the end of the reply, and `getstring` puts the
terminator behind the bytes that it has copied, so the loops stay inside both
blocks only if the whole list stands in the buffer and each name leaves room for
a terminator.  There are then as many turns as entries.
-/

def mntprocExport : UInt32 := 5

/-- The size of the block of the caller. -/
def strSize : Nat := 100

/-- What the loops leave: the reply buffer, the block of the caller, and the
cursors after each access. -/
structure Listed where
  ret : Pbuf
  str : List UInt8
  cursors : List Int

/-- The inner loop of `mnt_get_export_list`.  Without fuel it has not ended. -/
def groupLoop (order : ByteOrder) : Nat → Pbuf → List UInt8 → Except Fault (Option Listed)
  | 0, _, _ => pure none
  | fuel + 1, ret, str => do
      let (opt, flagged) ← ret.getWord order
      if opt = 0 then pure (some { ret := flagged, str := str, cursors := [flagged.pos] })
      else
        let (str, named) ← flagged.getstring order str strSize
        let rest ← groupLoop order fuel named str
        pure (rest.map fun rest =>
          { rest with cursors := flagged.pos :: named.pos :: rest.cursors })

/-- The outer loop of `mnt_get_export_list`, with the fuel of each inner one. -/
def exportLoop (order : ByteOrder) (groups : Nat) :
    Nat → Pbuf → List UInt8 → Except Fault (Option Listed)
  | 0, _, _ => pure none
  | fuel + 1, ret, str => do
      let (opt, flagged) ← ret.getWord order
      if opt = 0 then pure (some { ret := flagged, str := str, cursors := [flagged.pos] })
      else
        let (str, named) ← flagged.getstring order str strSize
        match ← groupLoop order groups named str with
        | none => pure none
        | some inner =>
            let rest ← exportLoop order groups fuel inner.ret inner.str
            pure (rest.map fun rest =>
              { rest with
                cursors := flagged.pos :: named.pos :: (inner.cursors ++ rest.cursors) })

/-- `mnt_get_export_list` behind its call.  The block is not initialised. -/
def exportReply (order : ByteOrder) (result : Except Fault (Int × Pbuf)) (str : List UInt8)
    (groups fuel : Nat) : Except Fault (Option Listed) := do
  let ret ← assertCalled result
  exportLoop order groups fuel ret str

def mntGetExportList {Func : Type} {callbackListLength : Nat} (order : ByteOrder)
    (client : Client Func callbackListLength) (txid : UInt32) (turns : List (Int × Received))
    (str : List UInt8) (groups fuel : Nat) : Option (Except Fault (Option Listed)) :=
  match initbuf order txid mntNumber mntVersion mntprocExport with
  | .error fault => some (.error fault)
  | .ok pbuf =>
      (rpcCall order client pbuf turns).map fun result =>
        exportReply order result str groups fuel

/-! ## Lists of exports -/

/-- An entry of either list: the word before it, its name, and what fills the
last word of the name. -/
structure Entry where
  flag : UInt32
  name : List UInt8
  fill : List UInt8
  more : flag ≠ 0
  short : name.length < strSize
  filled : fill.length = (4 - name.length % 4) % 4

structure Export where
  dir : Entry
  groups : List Entry

def Entry.encoding (entry : Entry) : List UInt8 :=
  store32 .big entry.flag ++
    (store32 .big (UInt32.ofNat entry.name.length) ++ entry.name ++ entry.fill)

def listEncoding (entries : List (List UInt8)) : List UInt8 :=
  entries.flatten ++ store32 .big 0

def Export.encoding (node : Export) : List UInt8 :=
  node.dir.encoding ++ listEncoding (node.groups.map Entry.encoding)

def exportsEncoding (exports : List Export) : List UInt8 :=
  listEncoding (exports.map Export.encoding)

/-- On this reply, whatever the block of the caller holds, the loops end without
a fault, and every cursor lies inside the buffer. -/
def ExportsDecoded (order : ByteOrder) (data : List UInt8) : Prop :=
  ∀ str : List UInt8, str.length = strSize → ∃ groups fuel listed,
    exportReply order (rpcCallReply order (receivedPbuf data)) str groups fuel =
      .ok (some listed) ∧
    ∀ cursor ∈ listed.cursors, 0 ≤ cursor ∧ cursor ≤ pbufSize

/-! ## One entry -/

theorem Entry.encoding_mod (entry : Entry) : entry.encoding.length % 4 = 0 := by
  have fill := entry.filled
  simp only [Entry.encoding, List.length_append, store32_length]
  omega

theorem Pbuf.Holds.getstring {pbuf : Pbuf} {position : Nat} {name fill : List UInt8}
    (holds : pbuf.Holds position (store32 .big (UInt32.ofNat name.length) ++ name ++ fill))
    (filled : fill.length = (4 - name.length % 4) % 4) (order : ByteOrder)
    (aligned : position % 4 = 0) (within : position ≤ pbufSize) {str : List UInt8} {len : Nat}
    (shorter : name.length < len) (room : name.length < str.length) :
    (pbuf.at_ position).getstring order str len =
      .ok (Pbuf.filled name str true, pbuf.at_ (position + 4 + paddedLength name.length)) := by
  have read := holds.getdata filled order aligned within shorter room true
  rw [Pbuf.getstring, read]
  rfl

/-- A string that can be copied into the block leaves room for its terminator and
stands in the buffer as a whole. -/
theorem Pbuf.getstring_ok {pbuf : Pbuf} {position : Nat} {order : ByteOrder}
    {str next : List UInt8} {after : Pbuf} (aligned : position % 4 = 0)
    (block : str.length = strSize)
    (read : (pbuf.at_ position).getstring order str strSize = .ok (next, after)) :
    ∃ name fill : List UInt8, name.length < strSize ∧
      fill.length = (4 - name.length % 4) % 4 ∧
      pbuf.Holds position (store32 .big (UInt32.ofNat name.length) ++ name ++ fill) := by
  rcases bind_eq_ok.mp read with ⟨⟨len, data, done⟩, read, _⟩
  unfold Pbuf.getdata at read
  rw [if_neg (by decide)] at read
  rcases bind_eq_ok.mp read with ⟨⟨word, counted⟩, gotWord, read⟩
  rcases bind_eq_ok.mp read with ⟨padsize, _, read⟩
  rcases bind_eq_ok.mp read with ⟨⟨bytes, copied⟩, gotBytes, read⟩
  rcases Pbuf.getWord_ok aligned gotWord with ⟨holdsWord, behind⟩
  dsimp only at gotBytes read
  rw [behind] at gotBytes
  rcases Pbuf.getfrombuf_ok gotBytes with ⟨holdsBytes, length, inside⟩
  have terminated : bytes.length < strSize := by
    split at read
    · cases read
    · rw [if_pos rfl, List.length_append, List.length_drop] at read
      split at read
      · omega
      · cases read
  -- A length below zero would copy far more than the buffer holds, and a longer
  -- one would fill the block.
  have number : word.toNat = bytes.length := by
    have bound := word.toNat_lt
    unfold asInt32 at length
    unfold strSize at length terminated
    unfold pbufSize at inside
    split at length <;> split at length <;> omega
  have named : word = UInt32.ofNat bytes.length := by
    rw [← number, UInt32.ofNat_toNat]
  rw [named] at holdsWord
  have room : position + 4 + bytes.length + (4 - bytes.length % 4) % 4 ≤ pbufSize := by
    unfold pbufSize at inside ⊢
    omega
  refine ⟨bytes, (pbuf.buf.drop (position + 4 + bytes.length)).take
    ((4 - bytes.length % 4) % 4), terminated, ?_, ?_⟩
  · rw [List.length_take, List.length_drop, pbuf.whole]
    omega
  · refine Pbuf.holds_append.mpr ⟨Pbuf.holds_append.mpr ⟨holdsWord, ?_⟩, ?_⟩
    · rwa [store32_length]
    · rw [List.length_append, store32_length, ← Nat.add_assoc]
      exact Pbuf.holds_take

/-- A name that fills the block is followed by a terminator behind the block. -/
theorem Pbuf.Holds.getstring_overflows {pbuf : Pbuf} {position : Nat} {size : UInt32}
    (holds : pbuf.Holds position (store32 .big size)) (order : ByteOrder)
    (aligned : position % 4 = 0) (inside : position + 4 + strSize ≤ pbufSize)
    {str : List UInt8} (block : str.length = strSize) (long : (strSize : Int) ≤ asInt32 size) :
    (pbuf.at_ position).getstring order str strSize = .error .outside := by
  have ahead : pbuf.Holds (position + 4) ((pbuf.buf.drop (position + 4)).take strSize) :=
    Pbuf.holds_take
  have copied := ahead.getfrombuf order (by omega)
  have whole : ((pbuf.buf.drop (position + 4)).take strSize).length = strSize := by
    rw [List.length_take, List.length_drop, pbuf.whole]
    omega
  rw [whole] at copied
  unfold Pbuf.getstring Pbuf.getdata
  rw [if_neg (by decide)]
  simp only [bind, Except.bind, holds.getWord order aligned (by omega)]
  rw [if_neg (by omega)]
  cases padded : padSize (asInt32 size) with
  | error fault =>
      unfold padSize at padded
      split at padded
      · cases padded
      · split at padded
        · cases padded
          rfl
        · cases padded
  | ok padsize =>
      have number : ((strSize : Int) % 0x10000000000000000).toNat = strSize := rfl
      dsimp only
      rw [number, copied]
      dsimp only
      rw [whole, if_neg (by omega), if_pos trivial,
        if_neg (by rw [List.length_append, List.length_drop]; omega)]

/-- An entry that stands ahead is read, and the block keeps its size. -/
theorem Entry.read {pbuf : Pbuf} {position : Nat} (entry : Entry) (rest : List UInt8)
    (holds : pbuf.Holds position (entry.encoding ++ rest)) (order : ByteOrder)
    (aligned : position % 4 = 0) (within : position ≤ pbufSize) {str : List UInt8}
    (block : str.length = strSize) :
    ∃ next : List UInt8, next.length = strSize ∧
      (pbuf.at_ position).getWord order = .ok (entry.flag, pbuf.at_ (position + 4)) ∧
      (pbuf.at_ (position + 4)).getstring order str strSize =
        .ok (next, pbuf.at_ (position + entry.encoding.length)) := by
  have fill := entry.filled
  have short := entry.short
  have flagged := holds.left.left
  have named := holds.left.right
  have inside := flagged.inside within
  rw [store32_length] at named inside
  have size : position + entry.encoding.length =
      position + 4 + 4 + paddedLength entry.name.length := by
    simp only [Entry.encoding, List.length_append, store32_length, fill, paddedLength]
    omega
  refine ⟨Pbuf.filled entry.name str true, ?_, flagged.getWord order aligned within, ?_⟩
  · simp only [Pbuf.filled, if_true, List.length_append, List.length_cons, List.length_drop]
    omega
  · rw [size]
    exact named.getstring fill order (by omega) inside short (by omega)

theorem entry_of_read {pbuf : Pbuf} {position : Nat} {order : ByteOrder} {opt : UInt32}
    {flagged named : Pbuf} {str next : List UInt8} (aligned : position % 4 = 0)
    (block : str.length = strSize)
    (gotFlag : (pbuf.at_ position).getWord order = .ok (opt, flagged)) (more : opt ≠ 0)
    (gotName : flagged.getstring order str strSize = .ok (next, named)) :
    ∃ entry : Entry, pbuf.Holds position entry.encoding ∧
      named = pbuf.at_ (position + entry.encoding.length) ∧ next.length = strSize := by
  rcases Pbuf.getWord_ok aligned gotFlag with ⟨holdsFlag, rfl⟩
  rcases Pbuf.getstring_ok (by omega) block gotName with ⟨name, fill, short, filled, holdsName⟩
  have holds := Pbuf.holds_append.mpr ⟨holdsFlag, by rwa [store32_length]⟩
  have within : position ≤ pbufSize := by
    have flagged := holdsFlag.length_le
    rw [store32_length, List.length_drop, pbuf.whole] at flagged
    omega
  let entry : Entry :=
    { flag := opt, name := name, fill := fill, more := more, short := short, filled := filled }
  rcases Entry.read entry [] (by rwa [List.append_nil]) order aligned within block with
    ⟨same, length, _, again⟩
  rw [gotName] at again
  cases again
  exact ⟨entry, holds, rfl, length⟩

/-! ## The loops -/

theorem listEncoding_cons (entry : List UInt8) (entries : List (List UInt8)) :
    listEncoding (entry :: entries) = entry ++ listEncoding entries := by
  rw [listEncoding, List.flatten_cons, List.append_assoc]
  rfl

theorem listEncoding_mod {entries : List (List UInt8)}
    (whole : ∀ entry ∈ entries, entry.length % 4 = 0) : (listEncoding entries).length % 4 = 0 := by
  induction entries with
  | nil => rfl
  | cons entry entries inductionHypothesis =>
      have here := whole entry List.mem_cons_self
      have later := inductionHypothesis fun other member =>
        whole other (List.mem_cons_of_mem _ member)
      rw [listEncoding_cons, List.length_append]
      omega

theorem groups_mod (groups : List Entry) :
    (listEncoding (groups.map Entry.encoding)).length % 4 = 0 := by
  apply listEncoding_mod
  intro bytes member
  rcases List.mem_map.mp member with ⟨entry, _, rfl⟩
  exact entry.encoding_mod

theorem Export.encoding_mod (node : Export) : node.encoding.length % 4 = 0 := by
  have dir := node.dir.encoding_mod
  have groups := groups_mod node.groups
  rw [Export.encoding, List.length_append]
  omega

structure Listed.Behind (listed : Listed) (pbuf : Pbuf) (position : Nat) (bytes : List UInt8) :
    Prop where
  ret : listed.ret = pbuf.at_ (position + bytes.length)
  str : listed.str.length = strSize

section Loops

variable {pbuf : Pbuf} {order : ByteOrder}

/-- If the inner loop ends, a list of groups stands ahead. -/
theorem groups_of_groupLoop {fuel position : Nat} {str : List UInt8} {listed : Listed}
    (aligned : position % 4 = 0) (block : str.length = strSize)
    (ended : groupLoop order fuel (pbuf.at_ position) str = .ok (some listed)) :
    ∃ groups : List Entry, pbuf.Holds position (listEncoding (groups.map Entry.encoding)) ∧
      listed.Behind pbuf position (listEncoding (groups.map Entry.encoding)) := by
  induction fuel generalizing position str listed with
  | zero => cases ended
  | succ fuel inductionHypothesis =>
      rcases bind_eq_ok.mp ended with ⟨⟨opt, flagged⟩, gotFlag, ended⟩
      dsimp only at ended
      by_cases more : opt = 0
      · rw [if_pos more] at ended
        rcases Pbuf.getWord_ok aligned gotFlag with ⟨holds, behind⟩
        cases ended
        rw [more] at holds
        refine ⟨[], holds, ?_, block⟩
        dsimp only
        rw [behind]
        rfl
      · rw [if_neg more] at ended
        rcases bind_eq_ok.mp ended with ⟨⟨next, named⟩, gotName, ended⟩
        rcases bind_eq_ok.mp ended with ⟨rest, looped, same⟩
        rcases entry_of_read aligned block gotFlag more gotName with
          ⟨entry, holds, rfl, length⟩
        rcases Option.map_eq_some_iff.mp (Except.ok.inj same) with ⟨later, rfl, rfl⟩
        have whole := entry.encoding_mod
        rcases inductionHypothesis (by omega) length looped with ⟨groups, others, behind⟩
        refine ⟨entry :: groups, ?_, ?_, behind.str⟩
        · rw [List.map_cons, listEncoding_cons]
          exact Pbuf.holds_append.mpr ⟨holds, others⟩
        · rw [List.map_cons, listEncoding_cons, List.length_append, ← Nat.add_assoc]
          exact behind.ret

/-- If the outer loop ends, a list of exports stands ahead. -/
theorem exports_of_exportLoop {groups fuel position : Nat} {str : List UInt8} {listed : Listed}
    (aligned : position % 4 = 0) (block : str.length = strSize)
    (ended : exportLoop order groups fuel (pbuf.at_ position) str = .ok (some listed)) :
    ∃ exports, pbuf.Holds position (exportsEncoding exports) := by
  induction fuel generalizing position str listed with
  | zero => cases ended
  | succ fuel inductionHypothesis =>
      rcases bind_eq_ok.mp ended with ⟨⟨opt, flagged⟩, gotFlag, ended⟩
      dsimp only at ended
      by_cases more : opt = 0
      · rcases Pbuf.getWord_ok aligned gotFlag with ⟨holds, _⟩
        rw [more] at holds
        exact ⟨[], holds⟩
      · rw [if_neg more] at ended
        rcases bind_eq_ok.mp ended with ⟨⟨next, named⟩, gotName, ended⟩
        rcases bind_eq_ok.mp ended with ⟨inner, grouped, ended⟩
        rcases entry_of_read aligned block gotFlag more gotName with
          ⟨dir, holds, rfl, length⟩
        have whole := dir.encoding_mod
        cases inner with
        | none => cases ended
        | some inner =>
            rcases groups_of_groupLoop (by omega) length grouped with ⟨entries, members, behind⟩
            rcases bind_eq_ok.mp ended with ⟨rest, looped, same⟩
            rcases Option.map_eq_some_iff.mp (Except.ok.inj same) with ⟨later, rfl, rfl⟩
            have wholeGroups := groups_mod entries
            rw [behind.ret] at looped
            rcases inductionHypothesis (by omega) behind.str looped with ⟨exports, others⟩
            refine ⟨{ dir := dir, groups := entries } :: exports, ?_⟩
            rw [exportsEncoding, List.map_cons, listEncoding_cons, Export.encoding,
              List.append_assoc]
            exact Pbuf.holds_append.mpr ⟨holds, Pbuf.holds_append.mpr ⟨members, others⟩⟩

theorem cursor_inside {position : Nat} (within : position ≤ pbufSize) :
    0 ≤ (pbuf.at_ position).pos ∧ (pbuf.at_ position).pos ≤ pbufSize :=
  ⟨Int.natCast_nonneg _, Int.ofNat_le.mpr within⟩

/-- A list of groups that stands ahead is read to its end. -/
theorem groupLoop_of_groups (order : ByteOrder) {groups : List Entry} {fuel position : Nat}
    {str : List UInt8} (holds : pbuf.Holds position (listEncoding (groups.map Entry.encoding)))
    (aligned : position % 4 = 0) (within : position ≤ pbufSize) (block : str.length = strSize)
    (enough : groups.length < fuel) :
    ∃ listed, groupLoop order fuel (pbuf.at_ position) str = .ok (some listed) ∧
      listed.Behind pbuf position (listEncoding (groups.map Entry.encoding)) ∧
      ∀ cursor ∈ listed.cursors, 0 ≤ cursor ∧ cursor ≤ pbufSize := by
  induction groups generalizing fuel position str with
  | nil =>
      cases fuel with
      | zero => cases enough
      | succ fuel =>
          have read := Pbuf.Holds.getWord holds order aligned within
          have inside := holds.inside within
          exact ⟨_, bind_eq_ok.mpr ⟨_, read, rfl⟩, ⟨rfl, block⟩,
            List.forall_mem_singleton.mpr (cursor_inside inside)⟩
  | cons entry groups inductionHypothesis =>
      cases fuel with
      | zero => cases enough
      | succ fuel =>
          rw [List.map_cons, listEncoding_cons] at holds ⊢
          rcases entry.read _ holds order aligned within block with ⟨next, length, flag, name⟩
          have whole := entry.encoding_mod
          have inside := holds.left.inside within
          have flagged := holds.left.left.inside within
          rcases inductionHypothesis holds.right (by omega) inside length
            (Nat.lt_of_succ_lt_succ enough) with ⟨listed, looped, behind, cursors⟩
          refine ⟨{ listed with
            cursors := (pbuf.at_ (position + 4)).pos ::
              (pbuf.at_ (position + entry.encoding.length)).pos :: listed.cursors },
            ?_, ⟨?_, behind.str⟩, ?_⟩
          · refine bind_eq_ok.mpr ⟨_, flag, ?_⟩
            dsimp only
            rw [if_neg entry.more]
            exact bind_eq_ok.mpr ⟨_, name, bind_eq_ok.mpr ⟨_, looped, rfl⟩⟩
          · rw [List.length_append, ← Nat.add_assoc]
            exact behind.ret
          · exact List.forall_mem_cons.mpr ⟨cursor_inside flagged,
              List.forall_mem_cons.mpr ⟨cursor_inside inside, cursors⟩⟩

/-- A list of exports that stands ahead is read to its end. -/
theorem exportLoop_of_exports (order : ByteOrder) {exports : List Export}
    {groups fuel position : Nat} {str : List UInt8}
    (holds : pbuf.Holds position (exportsEncoding exports))
    (aligned : position % 4 = 0) (within : position ≤ pbufSize) (block : str.length = strSize)
    (enough : exports.length < fuel) (each : ∀ node ∈ exports, node.groups.length < groups) :
    ∃ listed, exportLoop order groups fuel (pbuf.at_ position) str = .ok (some listed) ∧
      ∀ cursor ∈ listed.cursors, 0 ≤ cursor ∧ cursor ≤ pbufSize := by
  induction exports generalizing fuel position str with
  | nil =>
      cases fuel with
      | zero => cases enough
      | succ fuel =>
          have read := Pbuf.Holds.getWord holds order aligned within
          have inside := holds.inside within
          exact ⟨_, bind_eq_ok.mpr ⟨_, read, rfl⟩,
            List.forall_mem_singleton.mpr (cursor_inside inside)⟩
  | cons node exports inductionHypothesis =>
      cases fuel with
      | zero => cases enough
      | succ fuel =>
          rw [exportsEncoding, List.map_cons, listEncoding_cons, Export.encoding,
            List.append_assoc] at holds
          rcases node.dir.read _ holds order aligned within block with
            ⟨next, length, flag, name⟩
          have whole := node.dir.encoding_mod
          have wholeGroups := groups_mod node.groups
          have inside := holds.left.inside within
          have flagged := holds.left.left.inside within
          rcases groupLoop_of_groups order holds.right.left (by omega) inside length
            (each node List.mem_cons_self) with ⟨inner, grouped, behind, innerCursors⟩
          have ended := holds.right.left.inside inside
          rcases inductionHypothesis holds.right.right (by omega) ended behind.str
            (Nat.lt_of_succ_lt_succ enough)
            (fun other member => each other (List.mem_cons_of_mem _ member)) with
            ⟨listed, looped, cursors⟩
          rw [← behind.ret] at looped
          refine ⟨{ listed with
            cursors := (pbuf.at_ (position + 4)).pos ::
              (pbuf.at_ (position + node.dir.encoding.length)).pos ::
                (inner.cursors ++ listed.cursors) }, ?_, ?_⟩
          · refine bind_eq_ok.mpr ⟨_, flag, ?_⟩
            dsimp only
            rw [if_neg node.dir.more]
            refine bind_eq_ok.mpr ⟨_, name, bind_eq_ok.mpr ⟨_, grouped, ?_⟩⟩
            exact bind_eq_ok.mpr ⟨_, looped, rfl⟩
          · exact List.forall_mem_cons.mpr ⟨cursor_inside flagged,
              List.forall_mem_cons.mpr ⟨cursor_inside inside,
                List.forall_mem_append.mpr ⟨innerCursors, cursors⟩⟩⟩

end Loops

/-! ## Safe replies -/

/-- The loops begin where `rpc_call` has left the cursor. -/
theorem exportReply_received (order : ByteOrder) (data str : List UInt8) (groups fuel : Nat) :
    exportReply order (rpcCallReply order (receivedPbuf data)) str groups fuel =
      exportLoop order groups fuel
        ((receivedPbuf data).at_ (replyCursor (receivedPbuf data).buf)) str := by
  rw [rpcCallReply_received]
  rfl

/-- Decoding the list of exports is safe exactly on the replies that hold a
complete list, all of whose names are shorter than the block. -/
theorem exportsDecoded_iff (order : ByteOrder) (data : List UInt8) :
    ExportsDecoded order data ↔
      ∃ exports, (receivedPbuf data).Holds (replyCursor (receivedPbuf data).buf)
        (exportsEncoding exports) := by
  have bounds := replyCursor_bounds (receivedPbuf data).buf
  constructor
  · intro decoded
    rcases decoded (List.replicate strSize 0) List.length_replicate with
      ⟨groups, fuel, listed, ended, _⟩
    rw [exportReply_received] at ended
    exact exports_of_exportLoop bounds.1 List.length_replicate ended
  · rintro ⟨exports, holds⟩ str block
    have each : ∀ node ∈ exports,
        node.groups.length < (exports.map Export.groups).flatten.length + 1 :=
      fun node member => Nat.lt_succ_of_le
        (List.sublist_flatten_of_mem (List.mem_map_of_mem member)).length_le
    rcases exportLoop_of_exports order holds bounds.1 (bounds.2.trans (by decide)) block
      (Nat.lt_succ_self exports.length) each with ⟨listed, ended, cursors⟩
    exact ⟨_, _, listed, (exportReply_received order data str _ _).trans ended, cursors⟩

/-- A reply with one export, whose name has a hundred bytes. -/
def longName : List UInt8 :=
  [0, 0, 0, 101, 0, 0, 0, 1, 0, 0, 0, 0, 0, 0, 0, 0, 0, 0, 0, 0, 0, 0, 0, 0,
    0, 0, 0, 1, 0, 0, 0, 100] ++ List.replicate 100 97

/-- The terminator of a name of a hundred bytes is written behind the block. -/
theorem longName_overflows :
    ((receivedPbuf longName).at_ 28).getstring .little (List.replicate strSize 0) strSize =
        .error .outside ∧
      ¬ ExportsDecoded .little longName := by
  have hundred : wordAt (receivedPbuf longName).buf 28 = 100 := by decide
  have size : (receivedPbuf longName).Holds 28 (store32 .big 100) := by
    rw [← hundred]
    exact Pbuf.holds_word (by decide)
  refine ⟨size.getstring_overflows .little rfl (by decide) List.length_replicate (by decide), ?_⟩
  intro decoded
  have cursor : replyCursor (receivedPbuf longName).buf = 24 := by decide
  rcases decoded (List.replicate strSize 0) List.length_replicate with
    ⟨groups, fuel, listed, ended, _⟩
  rw [exportReply_received, cursor] at ended
  rcases exports_of_exportLoop rfl List.length_replicate ended with ⟨exports, holds⟩
  cases exports with
  | nil =>
      have ends : wordAt (receivedPbuf longName).buf 24 = 0 := Pbuf.Holds.wordAt holds
      revert ends
      decide
  | cons node exports =>
      rw [exportsEncoding, List.map_cons, listEncoding_cons, Export.encoding,
        List.append_assoc] at holds
      have size := holds.left.right.left.left.wordAt
      have short := node.dir.short
      rw [store32_length, hundred, ← UInt32.toNat_inj, UInt32.toNat_ofNat',
        Nat.mod_eq_of_lt (by unfold strSize at short; omega)] at size
      exact absurd size (Nat.ne_of_gt short)

end Nfs
end Ipbench
