import Ipbench.Discard.Arguments
import Mathlib.Data.List.Infix

namespace Ipbench
namespace Discard

open Foundation

/-!
# Lists of arguments and what `parse_args` makes of them

A list of arguments has items with a key and a value, and a comma between two items.  The
loop reads items at the front of a string as long as it finds one, so it also takes items
without commas between them.  What it does is right if it ends at the end of a list, or
at a place where every format fails.  A format that comes to the end of the string, and a
name of 16 characters or more, go wrong in every case.
-/

/-! ## The lists -/

def numberKeys : List (List UInt8) :=
  ["bps=", "size=", "warmup=", "cooldown=", "test_time=", "proto="].map literal

/-- A known key and its value.  White space other than a blank belongs to a number. -/
inductive IsItem : List UInt8 → Prop
  | number {key spaces value : List UInt8} (known : key ∈ numberKeys)
      (white : ∀ byte ∈ spaces, isSpaceByte byte = true ∧ byte ≠ 32) (number : IsNumber value) :
      IsItem (key ++ (spaces ++ value))
  | name {value : List UInt8} (more : value ≠ []) (plain : ∀ byte ∈ value, byte ∉ [44, 32]) :
      IsItem (literal "if=" ++ value)

/-- The string up to the first blank has items with commas between them. -/
def IsArgList (arg : List UInt8) : Prop :=
  ∃ items : List (List UInt8), (∀ item ∈ items, IsItem item) ∧
    (arg.takeWhile fun byte => byte != 32) = [44].intercalate items

/-! ## What is asked of a run -/

/-- An item moves the pointer by what it matched, and a name fits its buffer. -/
def ArgEvent.Exact : ArgEvent → Prop
  | .accepted advance matched left => advance = matched ∧ 1 ≤ matched ∧ matched ≤ left
  | .ifname bytes => bytes ≤ ifnamsiz

/-- The loop ends, every event is exact, and the status is zero for lists only. -/
def Parses (overflowed : Nat → List UInt8 → Nat) (arg : CString) (nchar : Int)
    (globals : Globals) : Prop :=
  ∃ turns status last events,
    parseArgs overflowed arg nchar globals turns = (.returned status last, events) ∧
      (∀ event ∈ events, event.Exact) ∧ (status = 0 ↔ IsArgList arg.bytes)

/-! ## The condition -/

def dropComma (text : List UInt8) : List UInt8 :=
  if text.head? = some 44 then text.tail else text

/-- An item at the front of a text.  There can be white space before a number, a name has
room for its zero byte, and the length is that of an `int`. -/
inductive ReadItem : List UInt8 → List UInt8 → Prop
  | number {key spaces value rest : List UInt8} (known : key ∈ numberKeys)
      (white : ∀ byte ∈ spaces, isSpaceByte byte = true) (number : IsNumber value)
      (stop : ∀ byte, rest.head? = some byte → isDigitByte byte = false)
      (short : (key ++ (spaces ++ value)).length < 0x80000000) :
      ReadItem (key ++ (spaces ++ value)) rest
  | name {value rest : List UInt8} (more : value ≠ []) (plain : ∀ byte ∈ value, byte ∉ [44, 32])
      (stop : ∀ byte, rest.head? = some byte → byte ∈ [44, 32]) (short : value.length < ifnamsiz) :
      ReadItem (literal "if=" ++ value) rest

/-- What is left of a text behind some items, each with the comma behind it. -/
inductive ReadsTo : List UInt8 → List UInt8 → Prop
  | here (text : List UInt8) : ReadsTo text text
  | item {item rest last : List UInt8} (read : ReadItem item rest)
      (later : ReadsTo (dropComma rest) last) : ReadsTo (item ++ rest) last

/-- The end of the string, or a blank. -/
def Ended (text : List UInt8) : Prop :=
  text = [] ∨ text.head? = some 32

/-- No format matches, and none comes to the end of the string. -/
def Refused (text : List UInt8) : Prop :=
  ¬ Ended text ∧ ∀ desc ∈ argDesc, sscanf text desc = .failed

/-- Behind the items at the front, a list is at its end, or every format fails. -/
def Regular (arg : List UInt8) : Prop :=
  ∃ rest, ReadsTo arg rest ∧ (Ended rest ∧ IsArgList arg ∨ Refused rest)

/-! ## Formats at a text -/

theorem number_of_mem {desc : Args} (listed : desc ∈ argDesc) :
    (desc.fmt ∈ numberKeys ∧ desc.conversion.scan = scanUnsigned ∧ desc.varp ≠ .ifname) ∨
      desc = ⟨literal "if=", .nameSet, .ifname⟩ := by
  have all : ∀ desc ∈ argDesc, (desc.fmt ∈ numberKeys ∧ desc.conversion ≠ .nameSet ∧
      desc.varp ≠ .ifname) ∨ desc = ⟨literal "if=", .nameSet, .ifname⟩ := by decide
  refine (all desc listed).imp_left fun number => ⟨number.1, ?_, number.2.2⟩
  cases conversion : desc.conversion with
  | llu | u | hu => rfl
  | nameSet => exact absurd conversion number.2.1

theorem exists_desc {key : List UInt8} (known : key ∈ numberKeys) :
    ∃ desc ∈ argDesc, desc.fmt = key ∧ desc.conversion.scan = scanUnsigned ∧
      desc.varp ≠ .ifname := by
  have all : ∀ key ∈ numberKeys, ∃ desc ∈ argDesc, desc.fmt = key ∧
      desc.conversion ≠ .nameSet := by decide
  rcases all key known with ⟨desc, listed, same, conversion⟩
  rcases number_of_mem listed with number | rfl
  · exact ⟨desc, listed, same, number.2⟩
  · exact absurd rfl conversion

theorem sscanf_unique {text : List UInt8} (nonempty : text ≠ []) {first second : Args}
    (firstListed : first ∈ argDesc) (secondListed : second ∈ argDesc)
    (firstScan : sscanf text first ≠ .failed) (secondScan : sscanf text second ≠ .failed) :
    first = second := by
  have literals : ∀ desc ∈ argDesc, desc.fmt ≠ [] := by decide
  have letters : ∀ first ∈ argDesc, ∀ second ∈ argDesc,
      first.fmt.head? = second.fmt.head? → first = second := by decide
  have head : ∀ {desc}, desc ∈ argDesc → sscanf text desc ≠ .failed →
      desc.fmt.head? = text.head? := by
    intro desc listed scan
    by_contra other
    exact scan (scanLiteral_of_head?_ne (literals desc listed) nonempty other)
  exact letters first firstListed second secondListed
    ((head firstListed firstScan).trans (head secondListed secondScan).symm)

theorem recognised_eq_none_iff {text : List UInt8} :
    recognised text = none ↔ ∀ desc ∈ argDesc, sscanf text desc = .failed := by
  simp [recognised, List.findSome?_eq_none_iff]

theorem recognised_some {text : List UInt8} {desc : Args} {scan : Scan}
    (found : recognised text = some (desc, scan)) :
    desc ∈ argDesc ∧ sscanf text desc = scan ∧ scan ≠ .failed := by
  rcases List.exists_of_findSome?_eq_some found with ⟨tried, listed, result⟩
  split at result
  · cases result
  · rename_i other
    cases result
    exact ⟨listed, rfl, other⟩

theorem recognised_of_scan {text : List UInt8} (nonempty : text ≠ []) {desc : Args}
    (listed : desc ∈ argDesc) (scan : sscanf text desc ≠ .failed) :
    recognised text = some (desc, sscanf text desc) := by
  cases found : recognised text with
  | none => exact absurd (recognised_eq_none_iff.mp found desc listed) scan
  | some result =>
      rcases recognised_some found with ⟨firstListed, same, other⟩
      have unique := sscanf_unique nonempty listed firstListed scan (same ▸ other)
      rw [unique, same]

/-! ## Items at a text -/

theorem ReadItem.ne_nil {item rest : List UInt8} (read : ReadItem item rest) :
    item ≠ [] := by
  cases read with
  | number known white number stop short =>
      have literals : ∀ key ∈ numberKeys, key ≠ [] := by decide
      exact fun empty => literals _ known (List.append_eq_nil_iff.mp empty).1
  | name more plain stop short => exact fun empty => more (List.append_eq_nil_iff.mp empty).2

theorem ReadItem.not_ended {item rest : List UInt8} (read : ReadItem item rest) :
    ¬ Ended (item ++ rest) := by
  have letters : ∀ key ∈ literal "if=" :: numberKeys, ∀ later, ¬ Ended (key ++ later) := by
    have heads : ∀ key ∈ literal "if=" :: numberKeys, key ≠ [] ∧ key.head? ≠ some 32 := by decide
    intro key known later ended
    rcases heads key known with ⟨more, letter⟩
    cases key with
    | nil => exact more rfl
    | cons first key =>
        rcases ended with empty | blank
        · cases empty
        · exact letter blank
  cases read with
  | number known white number stop short =>
      rw [List.append_assoc]
      exact letters _ (List.mem_cons_of_mem _ known) _
  | name more plain stop short =>
      rw [List.append_assoc]
      exact letters _ List.mem_cons_self _

theorem ReadItem.length_lt {item rest : List UInt8} (read : ReadItem item rest) :
    item.length < 0x80000000 := by
  cases read with
  | number known white number stop short => exact short
  | name more plain stop short =>
      have three : (literal "if=").length = 3 := by decide
      rw [List.length_append, three]
      unfold ifnamsiz at short
      omega

/-- An item is read as a whole by one of the formats, and leaves room in the buffer. -/
theorem ReadItem.sscanf {item rest : List UInt8} (read : ReadItem item rest) :
    ∃ desc ∈ argDesc, ∃ value, Discard.sscanf (item ++ rest) desc = .stored value rest ∧
      (desc.varp = .ifname → value.length < ifnamsiz) := by
  cases read with
  | @number key spaces value _ known white number stop short =>
      rcases exists_desc known with ⟨desc, listed, rfl, scan, other⟩
      refine ⟨desc, listed, value, ?_, fun same => absurd same other⟩
      apply scanLiteral_eq_stored_iff.mpr
      refine ⟨spaces ++ (value ++ rest), by simp only [List.append_assoc], ?_⟩
      rw [scan]
      exact scanUnsigned_of_number white number stop
  | @name value _ more plain stop short =>
      refine ⟨⟨literal "if=", .nameSet, .ifname⟩, by decide, value, ?_, fun _ => short⟩
      apply scanLiteral_eq_stored_iff.mpr
      exact ⟨value ++ rest, List.append_assoc _ _ _,
        scanSet_of_name more plain (Nat.le_of_lt short) (Or.inr stop)⟩

/-- What a format stores is an item, if its length is that of an `int` and a name leaves
room in the buffer. -/
theorem readItem_of_stored {text value rest : List UInt8} {desc : Args}
    (listed : desc ∈ argDesc) (stored : sscanf text desc = .stored value rest)
    (small : text.length - rest.length < 0x80000000)
    (room : desc.varp = .ifname → value.length < ifnamsiz) :
    ∃ item, text = item ++ rest ∧ ReadItem item rest := by
  rcases scanLiteral_eq_stored_iff.mp stored with ⟨behind, rfl, converted⟩
  rcases number_of_mem listed with ⟨known, scan, _⟩ | rfl
  · rw [scan] at converted
    rcases scanUnsigned_eq_stored_iff.mp converted with ⟨spaces, rfl, white, number, stop⟩
    refine ⟨desc.fmt ++ (spaces ++ value), by simp only [List.append_assoc],
      .number known white number stop ?_⟩
    simp only [List.length_append] at small ⊢
    omega
  · have short := room rfl
    rcases scanSet_eq_stored_iff.mp converted with ⟨rfl, more, plain, _, stop⟩
    refine ⟨literal "if=" ++ value, (List.append_assoc _ _ _).symm, .name more plain ?_ short⟩
    exact stop.resolve_left (Nat.ne_of_lt short)

/-- An item of a list is read as a whole, apart from a name of more than 16 characters. -/
theorem IsItem.sscanf {item rest : List UInt8} (isItem : IsItem item)
    (stop : ∀ byte, rest.head? = some byte → byte ∈ [44, 32]) :
    ∃ desc ∈ argDesc, ∃ value left, Discard.sscanf (item ++ rest) desc = .stored value left ∧
      (left = rest ∨ desc.varp = .ifname ∧ ifnamsiz ≤ value.length) := by
  cases isItem with
  | @number key spaces value known white number =>
      rcases exists_desc known with ⟨desc, listed, rfl, scan, other⟩
      refine ⟨desc, listed, value, rest, ?_, Or.inl rfl⟩
      apply scanLiteral_eq_stored_iff.mpr
      refine ⟨spaces ++ (value ++ rest), by simp only [List.append_assoc], ?_⟩
      rw [scan]
      apply scanUnsigned_of_number (fun byte member => (white byte member).1) number
      intro byte first
      rcases List.mem_pair.mp (stop byte first) with rfl | rfl
      · rfl
      · rfl
  | @name value more plain =>
      refine ⟨⟨literal "if=", .nameSet, .ifname⟩, by decide, ?_⟩
      rcases Nat.lt_or_ge 16 value.length with long | short
      · have full : (value.take 16).length = 16 := List.length_take_of_le (Nat.le_of_lt long)
        have parts : value.take 16 ++ (value.drop 16 ++ rest) = value ++ rest := by
          rw [← List.append_assoc, List.take_append_drop]
        refine ⟨value.take 16, value.drop 16 ++ rest, ?_, Or.inr ⟨rfl, Nat.le_of_eq full.symm⟩⟩
        apply scanLiteral_eq_stored_iff.mpr
        refine ⟨value ++ rest, List.append_assoc _ _ _, ?_⟩
        rw [← parts]
        apply scanSet_of_name
        · exact fun empty => absurd (full.symm.trans (congrArg List.length empty)) (by decide)
        · exact fun byte member => plain byte (List.mem_of_mem_take member)
        · exact Nat.le_of_eq full
        · exact Or.inl full
      · refine ⟨value, rest, ?_, Or.inl rfl⟩
        apply scanLiteral_eq_stored_iff.mpr
        exact ⟨value ++ rest, List.append_assoc _ _ _,
          scanSet_of_name more plain short (Or.inr stop)⟩

/-! ## Lists and items at their front -/

theorem takeWhile_blank_append {front rest : List UInt8} (plain : 32 ∉ front)
    (stop : ∀ byte, rest.head? = some byte → byte = 32) :
    ((front ++ rest).takeWhile fun byte => byte != 32) = front := by
  apply (takeWhile_dropWhile_iff.mpr ⟨rfl, ?_, ?_⟩).1
  · exact fun byte member => bne_iff_ne.mpr fun same => plain (same ▸ member)
  · intro byte first
    simpa using stop byte first

theorem isArgList_of_blank {rest : List UInt8}
    (stop : ∀ byte, rest.head? = some byte → byte = 32) : IsArgList (dropComma rest) := by
  have same : dropComma rest = rest := if_neg fun comma => absurd (stop 44 comma) (by decide)
  rw [same]
  refine ⟨[], List.forall_mem_nil _, ?_⟩
  exact @takeWhile_blank_append [] rest List.not_mem_nil stop

/-- A list that is not at its end begins with an item, and a list follows. -/
theorem IsArgList.front {text : List UInt8} (list : IsArgList text) (unfinished : ¬ Ended text) :
    ∃ item rest, text = item ++ rest ∧ IsItem item ∧ IsArgList (dropComma rest) ∧
      ∀ byte, rest.head? = some byte → byte ∈ [44, 32] := by
  rcases list with ⟨items, all, front⟩
  have parts := takeWhile_dropWhile_iff.mp (⟨rfl, rfl⟩ :
    (text.takeWhile fun byte => byte != 32) = _ ∧ (text.dropWhile fun byte => byte != 32) = _)
  generalize (text.dropWhile fun byte => byte != 32) = behind at parts
  rcases parts with ⟨whole, plain, stop⟩
  have blank : ∀ byte, behind.head? = some byte → byte = 32 := fun byte first => by
    simpa using stop byte first
  rw [front] at whole plain
  have noBlank : 32 ∉ [44].intercalate items := fun member => absurd (plain 32 member) (by decide)
  cases items with
  | nil =>
      refine absurd ?_ unfinished
      rw [whole]
      cases behind with
      | nil => exact Or.inl rfl
      | cons byte behind => exact Or.inr (congrArg some (blank byte rfl))
  | cons item more =>
      rw [List.forall_mem_cons] at all
      cases more with
      | nil =>
          refine ⟨item, behind, ?_, all.1, ?_, ?_⟩
          · simpa using whole
          · exact isArgList_of_blank blank
          · intro byte first
            exact List.mem_cons_of_mem _ (List.mem_singleton.mpr (blank byte first))
      | cons next others =>
          refine ⟨item, 44 :: ([44].intercalate (next :: others) ++ behind), ?_, all.1, ?_, ?_⟩
          · rw [whole, List.intercalate_cons_cons]
            simp
          · refine ⟨next :: others, all.2, ?_⟩
            apply takeWhile_blank_append _ blank
            rw [List.intercalate_cons_cons] at noBlank
            simp only [List.mem_append, not_or] at noBlank
            exact noBlank.2
          · rintro byte first
            cases first
            decide

theorem IsArgList.behind {item rest : List UInt8} (list : IsArgList (item ++ rest))
    (read : ReadItem item rest) : IsArgList (dropComma rest) := by
  have nonempty : item ++ rest ≠ [] := fun empty =>
    read.ne_nil (List.append_eq_nil_iff.mp empty).1
  rcases read.sscanf with ⟨desc, listed, value, scan, room⟩
  rcases list.front (read.not_ended) with ⟨first, later, parts, isItem, list, stop⟩
  rcases isItem.sscanf stop with ⟨other, otherListed, name, left, otherScan, either⟩
  rw [← parts] at otherScan
  have unique := sscanf_unique nonempty listed otherListed (by rw [scan]; exact Scan.noConfusion)
    (by rw [otherScan]; exact Scan.noConfusion)
  subst unique
  rcases Scan.stored.inj (scan.symm.trans otherScan) with ⟨rfl, rfl⟩
  rcases either with rfl | ⟨name, long⟩
  · exact list
  · exact absurd (room name) (Nat.not_lt_of_le long)

theorem IsArgList.readsTo {text rest : List UInt8} (list : IsArgList text)
    (read : ReadsTo text rest) : IsArgList rest := by
  induction read with
  | here => exact list
  | item read later inductionHypothesis => exact inductionHypothesis (list.behind read)

theorem IsArgList.recognised {text : List UInt8} (list : IsArgList text)
    (unfinished : ¬ Ended text) :
    ∃ desc value rest, Discard.recognised text = some (desc, .stored value rest) := by
  rcases list.front unfinished with ⟨item, rest, rfl, isItem, _, stop⟩
  rcases isItem.sscanf stop with ⟨desc, listed, value, left, scan, _⟩
  refine ⟨desc, value, left, ?_⟩
  rw [recognised_of_scan (fun empty => unfinished (Or.inl empty)) listed
    (by rw [scan]; exact Scan.noConfusion), scan]

/-! ## One turn -/

theorem exact_stored_iff {count : Int} {matched left : Nat} {desc : Args} {value : List UInt8} :
    (∀ event ∈ .accepted count matched left :: nameEvents desc value, event.Exact) ↔
      (count = matched ∧ 1 ≤ matched ∧ matched ≤ left) ∧
        (desc.varp = .ifname → value.length < ifnamsiz) := by
  rw [List.forall_mem_cons]
  apply and_congr Iff.rfl
  unfold nameEvents
  split
  · rename_i name
    rw [List.forall_mem_singleton, imp_iff_right name]
    exact Nat.succ_le_iff
  · rename_i other
    exact iff_of_true (List.forall_mem_nil _)
      fun name => absurd name other

section Turn

variable {overflowed : Nat → List UInt8 → Nat} {arg : CString} {offset : Nat} {nchar : Int}
  {globals : Globals}

theorem turn_ended (ended : Ended (arg.bytes.drop offset)) :
    turn overflowed arg (.scanning offset nchar globals) = (.returned 0 globals, []) :=
  if_pos ended

theorem turn_refused (refused : Refused (arg.bytes.drop offset)) :
    turn overflowed arg (.scanning offset nchar globals) = (.returned 1 globals, []) := by
  have none := recognised_eq_none_iff.mpr refused.2
  refine (if_neg refused.1).trans ?_
  rw [none]

theorem turn_stored (unfinished : ¬ Ended (arg.bytes.drop offset)) {desc : Args}
    {value rest : List UInt8}
    (found : recognised (arg.bytes.drop offset) = some (desc, .stored value rest)) :
    turn overflowed arg (.scanning offset nchar globals) =
      (advance arg.bytes offset
          (Int.bmod ((arg.bytes.drop offset).length - rest.length : Nat) 0x100000000)
          (store overflowed desc value globals),
        .accepted (Int.bmod ((arg.bytes.drop offset).length - rest.length : Nat) 0x100000000)
          ((arg.bytes.drop offset).length - rest.length) (arg.bytes.drop offset).length ::
          nameEvents desc value) := by
  refine (if_neg unfinished).trans ?_
  rw [found]

theorem turn_input_ends (unfinished : ¬ Ended (arg.bytes.drop offset)) {desc : Args}
    (found : recognised (arg.bytes.drop offset) = some (desc, .ended)) :
    turn overflowed arg (.scanning offset nchar globals) =
      (advance arg.bytes offset nchar globals,
        [.accepted nchar (arg.bytes.drop offset).length (arg.bytes.drop offset).length]) := by
  refine (if_neg unfinished).trans ?_
  rw [found]

/-- Within the string the pointer moves, and over a comma. -/
theorem advance_inside (stored : Globals) {moved : Nat}
    (inside : offset + moved ≤ arg.bytes.length) :
    ∃ later, advance arg.bytes offset moved stored = .scanning later moved stored ∧
      arg.bytes.drop later = dropComma ((arg.bytes.drop offset).drop moved) := by
  have bounds : 0 ≤ (offset : Int) + moved ∧ (offset : Int) + moved ≤ arg.bytes.length := by
    omega
  have target : ((offset : Int) + moved).toNat = offset + moved := by omega
  unfold advance dropComma
  rw [if_pos bounds, target, List.drop_drop, List.head?_drop]
  split
  · exact ⟨offset + moved + 1, rfl, by rw [List.tail_drop]⟩
  · exact ⟨offset + moved, rfl, rfl⟩

theorem bmod_eq_iff {count : Nat} :
    Int.bmod count 0x100000000 = count ↔ count < 0x80000000 := by
  rw [Int.bmod_def]
  split <;> omega

/-- An item at the pointer is accepted, and the events are exact. -/
theorem turn_item (overflowed : Nat → List UInt8 → Nat) {item rest : List UInt8}
    (here : arg.bytes.drop offset = item ++ rest) (read : ReadItem item rest) (nchar : Int)
    (globals : Globals) :
    ∃ later count stored events,
      turn overflowed arg (.scanning offset nchar globals) =
        (.scanning later count stored, events) ∧
      arg.bytes.drop later = dropComma rest ∧ ∀ event ∈ events, event.Exact := by
  have unfinished : ¬ Ended (arg.bytes.drop offset) := here ▸ read.not_ended
  have nonempty : item ++ rest ≠ [] := fun empty => read.not_ended (Or.inl empty)
  rcases read.sscanf with ⟨desc, listed, value, scan, room⟩
  have found : recognised (arg.bytes.drop offset) = some (desc, .stored value rest) := by
    rw [here, recognised_of_scan nonempty listed (by rw [scan]; exact Scan.noConfusion), scan]
  have left : (arg.bytes.drop offset).length = item.length + rest.length := by
    rw [here, List.length_append]
  have inside : offset + item.length ≤ arg.bytes.length := by
    rw [List.length_drop] at left
    have positive := List.length_pos_iff.mpr read.ne_nil
    omega
  rcases advance_inside (store overflowed desc value globals) inside with ⟨later, moved, behind⟩
  have matched : (arg.bytes.drop offset).length - rest.length = item.length := by omega
  have count := bmod_eq_iff.mpr read.length_lt
  have stepped : turn overflowed arg (.scanning offset nchar globals) = _ :=
    turn_stored unfinished found
  rw [matched, count, moved] at stepped
  refine ⟨later, _, _, _, stepped, ?_, ?_⟩
  · rw [behind, here, List.drop_left]
  · rw [exact_stored_iff]
    exact ⟨⟨rfl, List.length_pos_iff.mpr read.ne_nil, by omega⟩, room⟩

end Turn

/-! ## All turns -/

section Run

variable {overflowed : Nat → List UInt8 → Nat} {arg : CString}

theorem run_succ {state next : ArgState} {events : List ArgEvent}
    (stepped : turn overflowed arg state = (next, events)) (turns : Nat) :
    (argMachine overflowed arg).run state (List.replicate (turns + 1) ()) =
      (((argMachine overflowed arg).run next (List.replicate turns ())).1,
        events ++ ((argMachine overflowed arg).run next (List.replicate turns ())).2) :=
  Machine.run_cons_of_step stepped _

theorem run_returned (status : Int) (globals : Globals) (turns : Nat) :
    (argMachine overflowed arg).run (.returned status globals) (List.replicate turns ()) =
      (.returned status globals, []) :=
  Machine.run_of_still (fun _ => rfl) _

/-- Items at the pointer are read one after the other. -/
theorem run_of_readsTo (overflowed : Nat → List UInt8 → Nat) {text rest : List UInt8}
    (read : ReadsTo text rest) {offset : Nat} (here : arg.bytes.drop offset = text) (nchar : Int)
    (globals : Globals) :
    ∃ turns later count stored events,
      (argMachine overflowed arg).run (.scanning offset nchar globals)
          (List.replicate turns ()) = (.scanning later count stored, events) ∧
      arg.bytes.drop later = rest ∧ ∀ event ∈ events, event.Exact := by
  induction read generalizing offset nchar globals with
  | here text =>
      exact ⟨0, offset, nchar, globals, [], rfl, here,
        List.forall_mem_nil _⟩
  | item read later inductionHypothesis =>
      rcases turn_item overflowed here read nchar globals with
        ⟨next, count, stored, events, stepped, behind, exact⟩
      rcases inductionHypothesis behind count stored with
        ⟨turns, last, lastCount, lastStored, others, run, left, othersExact⟩
      refine ⟨turns + 1, last, lastCount, lastStored, events ++ others, ?_, left, ?_⟩
      · rw [run_succ stepped, run]
      · exact List.forall_mem_append.mpr ⟨exact, othersExact⟩

theorem status_of_ended {offset turns : Nat} {nchar status : Int} {globals last : Globals}
    {events : List ArgEvent} (ended : Ended (arg.bytes.drop offset))
    (run : (argMachine overflowed arg).run (.scanning offset nchar globals)
      (List.replicate turns ()) = (.returned status last, events)) : status = 0 := by
  cases turns with
  | zero => cases run
  | succ turns =>
      rw [run_succ (turn_ended ended), run_returned] at run
      cases run
      rfl

section Exact

variable {offset turns : Nat} {nchar status : Int} {globals last : Globals}
  {events : List ArgEvent}
  (run : (argMachine overflowed arg).run (.scanning offset nchar globals)
    (List.replicate (turns + 1) ()) = (.returned status last, events))
  (exact : ∀ event ∈ events, event.Exact) (unfinished : ¬ Ended (arg.bytes.drop offset))
  {desc : Args}
include run exact unfinished

/-- Where a format comes to the end of the string, only the number of an earlier item can
be right, and it leads to the end. -/
theorem status_of_input_ends
    (found : recognised (arg.bytes.drop offset) = some (desc, .ended)) : status = 0 := by
  rw [run_succ (turn_input_ends unfinished found)] at run
  rcases Prod.mk.inj run with ⟨returned, rfl⟩
  have whole := (List.forall_mem_append.mp exact).1 _ List.mem_cons_self
  have inside : offset + (arg.bytes.drop offset).length ≤ arg.bytes.length := by
    have positive := whole.2.1
    rw [List.length_drop] at positive ⊢
    omega
  rcases advance_inside globals inside with ⟨later, moved, behind⟩
  rw [whole.1, moved] at returned
  rw [List.drop_length] at behind
  exact status_of_ended (Or.inl behind) (Prod.ext returned rfl)

/-- What a format stores in a run with exact events is an item. -/
theorem readItem_of_run {value rest : List UInt8}
    (found : recognised (arg.bytes.drop offset) = some (desc, .stored value rest)) :
    ∃ item, arg.bytes.drop offset = item ++ rest ∧ ReadItem item rest := by
  rw [run_succ (turn_stored unfinished found)] at run
  rcases Prod.mk.inj run with ⟨_, rfl⟩
  have front := exact_stored_iff.mp (List.forall_mem_append.mp exact).1
  rcases recognised_some found with ⟨listed, scanned, _⟩
  exact readItem_of_stored listed scanned (bmod_eq_iff.mp front.1.1) front.2

end Exact

/-- A run with exact events that returns has read items up to the end, to a place where
every format fails, or to one where a format comes to the end of the string. -/
theorem readsTo_of_run {offset turns : Nat} {nchar status : Int} {globals last : Globals}
    {events : List ArgEvent}
    (run : (argMachine overflowed arg).run (.scanning offset nchar globals)
      (List.replicate turns ()) = (.returned status last, events))
    (exact : ∀ event ∈ events, event.Exact) :
    ∃ rest, ReadsTo (arg.bytes.drop offset) rest ∧
      (Refused rest ∨ status = 0 ∧
        (Ended rest ∨ ∃ desc, recognised rest = some (desc, .ended))) := by
  induction turns generalizing offset nchar globals events with
  | zero => cases run
  | succ turns inductionHypothesis =>
      by_cases ended : Ended (arg.bytes.drop offset)
      · exact ⟨_, .here _, Or.inr ⟨status_of_ended ended run, Or.inl ended⟩⟩
      cases found : recognised (arg.bytes.drop offset) with
      | none => exact ⟨_, .here _, Or.inl ⟨ended, recognised_eq_none_iff.mp found⟩⟩
      | some result =>
          rcases result with ⟨desc, scan⟩
          cases scan with
          | failed => exact absurd rfl (recognised_some found).2.2
          | ended =>
              have zero := status_of_input_ends run exact ended found
              exact ⟨_, .here _, Or.inr ⟨zero, Or.inr ⟨desc, found⟩⟩⟩
          | stored value rest =>
              rcases readItem_of_run run exact ended found with ⟨item, here, read⟩
              rcases turn_item overflowed here read nchar globals with
                ⟨next, count, stored, others, stepped, behind, _⟩
              rw [run_succ stepped] at run
              rcases Prod.mk.inj run with ⟨returned, rfl⟩
              rcases inductionHypothesis (Prod.ext returned rfl)
                (List.forall_mem_append.mp exact).2 with ⟨last, later, outcome⟩
              rw [here]
              exact ⟨last, .item read (behind ▸ later), outcome⟩

theorem run_last {offset turns later : Nat} {nchar count status : Int}
    {globals stored last : Globals} {events : List ArgEvent}
    (run : (argMachine overflowed arg).run (.scanning offset nchar globals)
      (List.replicate turns ()) = (.scanning later count stored, events))
    (stepped : turn overflowed arg (.scanning later count stored) = (.returned status last, [])) :
    (argMachine overflowed arg).run (.scanning offset nchar globals)
      (List.replicate (turns + 1) ()) = (.returned status last, events) := by
  rw [List.replicate_succ', Machine.run_concat, run]
  change ((turn overflowed arg (.scanning later count stored)).1,
    events ++ (turn overflowed arg (.scanning later count stored)).2) = _
  rw [stepped, List.append_nil]

end Run

/-- Whatever the uninitialised `nchar` holds: the loop ends, every accepted item moves the
pointer by what it matched, names fit their buffer and the status is zero exactly for
lists, if and only if the string is regular. -/
theorem parseArgs_regular_iff (overflowed : Nat → List UInt8 → Nat) (arg : CString) (nchar : Int)
    (globals : Globals) : Parses overflowed arg nchar globals ↔ Regular arg.bytes := by
  constructor
  · rintro ⟨turns, status, last, events, run, exact, list⟩
    rcases readsTo_of_run run exact with ⟨rest, read, refused | ⟨zero, outcome⟩⟩
    · exact ⟨rest, read, Or.inr refused⟩
    · refine ⟨rest, read, Or.inl ⟨?_, list.mp zero⟩⟩
      rcases outcome with ended | ⟨desc, found⟩
      · exact ended
      · by_contra unfinished
        rcases ((list.mp zero).readsTo read).recognised unfinished with ⟨other, value, left, item⟩
        cases found.symm.trans item
  · rintro ⟨rest, read, outcome⟩
    rcases run_of_readsTo overflowed read List.drop_zero nchar globals with
      ⟨turns, later, count, stored, events, run, here, exact⟩
    rcases outcome with ⟨ended, list⟩ | refused
    · exact ⟨turns + 1, 0, stored, events, run_last run (turn_ended (here ▸ ended)), exact,
        iff_of_true rfl list⟩
    · refine ⟨turns + 1, 1, stored, events, run_last run (turn_refused (here ▸ refused)), exact,
        iff_of_false (by decide) fun list => ?_⟩
      rcases (list.readsTo read).recognised refused.1 with ⟨desc, value, left, item⟩
      cases (recognised_eq_none_iff.mpr refused.2).symm.trans item

def unfinishedItem : CString := ⟨literal "bps=1,b", by decide⟩

def sixteenLetters : CString := ⟨literal "if=abcdefghijklmnop", by decide⟩

/-- The string ends within the second item, and the number of the first one leads behind
the string; and a name of 16 letters needs a byte more than its buffer has. -/
theorem brokenItem_not_parsed :
    ¬ Parses (fun _ _ => 0) unfinishedItem 0 defaults ∧
      ¬ Parses (fun _ _ => 0) sixteenLetters 0 defaults := by
  constructor
  · rintro ⟨turns, status, last, events, run, _⟩
    have first : recognised (unfinishedItem.bytes.drop 0) =
        some (⟨literal "bps=", .llu, .bps⟩, .stored [49] [44, 98]) := by decide +kernel
    have second : recognised (unfinishedItem.bytes.drop 6) =
        some (⟨literal "bps=", .llu, .bps⟩, .ended) := by decide +kernel
    have count : Int.bmod ((unfinishedItem.bytes.drop 0).length - [(44 : UInt8), 98].length : Nat)
        0x100000000 = 5 := by decide +kernel
    have moved : ∀ stored, advance unfinishedItem.bytes 0 5 stored = .scanning 6 5 stored :=
      fun _ => rfl
    have left : ∀ stored, advance unfinishedItem.bytes 6 5 stored = .outside := fun _ => rfl
    unfold parseArgs at run
    rcases turns with _ | _ | turns
    · cases run
    · rw [run_succ (turn_stored (by unfold Ended; decide +kernel) first), count, moved] at run
      cases run
    · rw [run_succ (turn_stored (by unfold Ended; decide +kernel) first), count, moved,
        run_succ (turn_input_ends (by unfold Ended; decide +kernel) second), left,
        Machine.run_of_still fun _ => rfl] at run
      cases run
  · rintro ⟨turns, status, last, events, run, exact, _⟩
    have first : recognised (sixteenLetters.bytes.drop 0) =
        some (⟨literal "if=", .nameSet, .ifname⟩, .stored (literal "abcdefghijklmnop") []) := by
      decide +kernel
    unfold parseArgs at run
    cases turns with
    | zero => cases run
    | succ turns =>
        rw [run_succ (turn_stored (by unfold Ended; decide +kernel) first)] at run
        rcases Prod.mk.inj run with ⟨_, rfl⟩
        have room := (exact_stored_iff.mp (List.forall_mem_append.mp exact).1).2 rfl
        exact absurd room (by decide)

end Discard
end Ipbench
