import Ipbench.Foundation.Block
import Ipbench.Foundation.Substitution

namespace Ipbench
namespace Tbench

open Foundation

/-!
# Replacing a pattern in place

`all_string_sub` moves the rest of a string with `memmove` and writes the new
text before it.  Between two replacements it advances the start of the string,
but not the length that belongs to it: each later `memmove` also moves as many
bytes behind the end of the string as stand before its start.

What it makes of the string is the replacement from the left, unless one of
these calls leaves the buffer.
-/

/-! ## The code -/

/-- `memmove` within a buffer; `none` leaves it. -/
def memmove (buf : List UInt8) (target source count : Nat) : Option (List UInt8) :=
  if source + count ≤ buf.length ∧ target + count ≤ buf.length then
    some (buf.take target ++ (buf.drop source).take count ++ buf.drop (target + count))
  else none

/-- The count of a `memmove`: the offset is cast to `int`, and what is computed with it is a
`size_t`. -/
def moveCount (ls place lp : Nat) : Nat :=
  (((ls : Int) + 1 - (Int.bmod place 0x100000000 + lp)) % 0x10000000000000000).toNat

/-- The loop of `all_string_sub`, where `s` is an offset into the buffer and `ls` the length
that the code keeps.  `fuel` bounds the turns. -/
def allStringSubLoop (pattern insert : List UInt8) :
    (fuel : Nat) → (buf : List UInt8) → (s ls : Nat) → Option (List UInt8)
  | 0, _, _, _ => none
  | fuel + 1, buf, s, ls =>
      if pattern.length ≤ ls then
        (readString (buf.drop s)).bind fun text =>
          match findSub pattern text with
          | none => some buf
          | some place =>
              let p := s + place
              (memmove buf (p + insert.length) (p + pattern.length)
                  (moveCount ls place pattern.length)).bind fun moved =>
                (memcpy moved p insert insert.length).bind fun written =>
                  allStringSubLoop pattern insert fuel written (p + insert.length)
                    (ls + insert.length - pattern.length)
      else some buf

/-- `all_string_sub` of the string at the start of a buffer; `none` leaves the buffer. -/
def allStringSub (buf pattern insert : List UInt8) : Option (List UInt8) :=
  (readString buf).bind fun text =>
    if pattern = [] then some buf
    else allStringSubLoop pattern insert (buf.length + 1) buf 0 text.length

/-! ## The property -/

/-- There is room for every replacement: `start` bytes of the string stand before the part that
is still searched, and each call moves the bytes behind its end as far as they go. -/
def RoomFrom (size : Nat) (pattern insert : List UInt8) :
    (skip start place : Nat) → List UInt8 → Prop
  | _, _, _, [] => True
  | skip + 1, start, place, _ :: rest => RoomFrom size pattern insert skip start place rest
  | 0, start, place, byte :: rest =>
      if pattern <+: byte :: rest then
        place + start + (byte :: rest).length < size ∧
          place + start + (byte :: rest).length + insert.length < size + pattern.length ∧
          RoomFrom size pattern insert (pattern.length - 1) (place + insert.length)
            (place + insert.length) rest
      else RoomFrom size pattern insert 0 start (place + 1) rest

instance decidableRoomFrom (size : Nat) (pattern insert : List UInt8) :
    (skip start place : Nat) → (text : List UInt8) →
      Decidable (RoomFrom size pattern insert skip start place text)
  | 0, _, _, [] => .isTrue trivial
  | _ + 1, _, _, [] => .isTrue trivial
  | skip + 1, start, place, _ :: rest => decidableRoomFrom size pattern insert skip start place rest
  | 0, start, place, byte :: rest =>
      have := decidableRoomFrom size pattern insert (pattern.length - 1) (place + insert.length)
        (place + insert.length) rest
      have := decidableRoomFrom size pattern insert 0 start (place + 1) rest
      if front : pattern <+: byte :: rest then
        decidable_of_iff (place + start + (byte :: rest).length < size ∧
          place + start + (byte :: rest).length + insert.length < size + pattern.length ∧
          RoomFrom size pattern insert (pattern.length - 1) (place + insert.length)
            (place + insert.length) rest) (by rw [RoomFrom, if_pos front])
      else
        decidable_of_iff (RoomFrom size pattern insert 0 start (place + 1) rest)
          (by rw [RoomFrom, if_neg front])

def Room (size : Nat) (pattern insert text : List UInt8) : Prop :=
  RoomFrom size pattern insert 0 0 0 text

instance (size : Nat) (pattern insert text : List UInt8) :
    Decidable (Room size pattern insert text) :=
  decidableRoomFrom size pattern insert 0 0 0 text

/-! ## One replacement -/

section Step

variable {before pattern insert behind junk : List UInt8} {extra : Nat}

/-- The string behind a place moves, with what it drags along. -/
theorem memmove_inside
    (source : before.length + pattern.length + (extra + behind.length + 1) ≤
      (before ++ (pattern ++ (behind ++ 0 :: junk))).length)
    (target : before.length + insert.length + (extra + behind.length + 1) ≤
      (before ++ (pattern ++ (behind ++ 0 :: junk))).length) :
    ∃ middle dragged, middle.length = insert.length ∧
      memmove (before ++ (pattern ++ (behind ++ 0 :: junk))) (before.length + insert.length)
        (before.length + pattern.length) (extra + behind.length + 1) =
          some (before ++ (middle ++ (behind ++ 0 :: dragged))) := by
  have front : (before ++ (pattern ++ (behind ++ 0 :: junk))).take
      (before.length + insert.length) =
        before ++ (pattern ++ (behind ++ 0 :: junk)).take insert.length :=
    List.take_length_add_append insert.length
  have moved : ((before ++ (pattern ++ (behind ++ 0 :: junk))).drop
      (before.length + pattern.length)).take (extra + behind.length + 1) =
        behind ++ 0 :: junk.take extra := by
    rw [List.drop_length_add_append, List.drop_left, show extra + behind.length + 1 =
      behind.length + (extra + 1) by omega, List.take_length_add_append, List.take_succ_cons]
  refine ⟨(pattern ++ (behind ++ 0 :: junk)).take insert.length,
    junk.take extra ++ (before ++ (pattern ++ (behind ++ 0 :: junk))).drop
      (before.length + insert.length + (extra + behind.length + 1)), ?_, ?_⟩
  · rw [List.length_append] at target
    rw [List.length_take]
    omega
  · rw [memmove, if_pos ⟨source, target⟩, front, moved]
    simp only [List.append_assoc, List.cons_append]

theorem memcpy_middle {middle : List UInt8} (same : middle.length = insert.length)
    (rest : List UInt8) :
    memcpy (before ++ (middle ++ rest)) before.length insert insert.length =
      some (before ++ (insert ++ rest)) := by
  have inside : before.length + insert.length ≤ (before ++ (middle ++ rest)).length := by
    rw [List.length_append, List.length_append]
    omega
  rw [memcpy, if_pos ⟨Nat.le_refl _, inside⟩, List.take_left, List.take_length, ← same,
    List.drop_length_add_append, List.drop_left, List.append_assoc]

theorem memmove_length {buf moved : List UInt8} {target source count : Nat}
    (done : memmove buf target source count = some moved) : moved.length = buf.length := by
  unfold memmove at done
  split at done
  · next inside =>
      cases done
      simp only [List.length_append, List.length_take, List.length_drop]
      omega
  · cases done

theorem memmove_none {buf : List UInt8} {target source count : Nat}
    (outside : ¬ (source + count ≤ buf.length ∧ target + count ≤ buf.length)) :
    memmove buf target source count = none :=
  if_neg outside

end Step

/-- In a buffer of less than 2 GiB the cast changes nothing. -/
theorem moveCount_eq {ls place lp : Nat} (small : ls < 0x80000000) (inside : place + lp ≤ ls + 1)
    (positive : 0 < lp) : moveCount ls place lp = ls + 1 - (place + lp) := by
  have kept : Int.bmod place 0x100000000 = place := by
    rw [Int.bmod_def]
    split
    · omega
    · omega
  have whole : (ls : Int) + 1 - (place + lp) = (ls + 1 - (place + lp) : Nat) := by omega
  have few : ((ls + 1 - (place + lp) : Nat) : Int) < 0x10000000000000000 := by omega
  unfold moveCount
  rw [kept, whole, Int.emod_eq_of_lt (Int.natCast_nonneg _) few, Int.toNat_natCast]

/-! ## Room -/

section Places

variable {size start : Nat} {pattern insert text : List UInt8}

theorem roomFrom_nil (skip place : Nat) :
    RoomFrom size pattern insert skip start place [] := by
  cases skip <;> exact trivial

theorem roomFrom_skip (skip place : Nat) (text : List UInt8) :
    RoomFrom size pattern insert skip start place text ↔
      RoomFrom size pattern insert 0 start place (text.drop skip) := by
  induction skip generalizing text with
  | zero => exact Iff.rfl
  | succ skip inductionHypothesis =>
      cases text with
      | nil => exact iff_of_true trivial (roomFrom_nil 0 place)
      | cons byte rest => exact inductionHypothesis rest

theorem roomFrom_of_none (absent : findSub pattern text = none) (place : Nat) :
    RoomFrom size pattern insert 0 start place text := by
  induction text generalizing place with
  | nil => exact trivial
  | cons byte rest inductionHypothesis =>
      rw [findSub] at absent
      split at absent
      · cases absent
      · next other =>
          rw [RoomFrom, if_neg other]
          exact inductionHypothesis (Option.map_eq_none_iff.mp absent) (place + 1)

/-- The first replacement decides over its own room, the string behind it over the rest. -/
theorem roomFrom_of_some (nonempty : pattern ≠ []) {front behind : List UInt8}
    (found : findSub pattern (front ++ (pattern ++ behind)) = some front.length) (place : Nat) :
    RoomFrom size pattern insert 0 start place (front ++ (pattern ++ behind)) ↔
      place + front.length + start + (pattern ++ behind).length < size ∧
      place + front.length + start + (pattern ++ behind).length + insert.length <
        size + pattern.length ∧
      RoomFrom size pattern insert 0 (place + front.length + insert.length)
        (place + front.length + insert.length) behind := by
  induction front generalizing place with
  | nil =>
      cases pattern with
      | nil => exact absurd rfl nonempty
      | cons first pattern =>
          have front : first :: pattern <+: first :: (pattern ++ behind) :=
            List.prefix_append (first :: pattern) behind
          rw [List.nil_append, List.cons_append, RoomFrom, if_pos front, roomFrom_skip,
            show (first :: pattern).length - 1 = pattern.length from rfl, List.drop_left]
          rfl
  | cons byte front inductionHypothesis =>
      rw [List.cons_append, findSub] at found
      split at found
      · exact absurd (Option.some.inj found) (Nat.succ_ne_zero front.length).symm
      · next other =>
          rcases Option.map_eq_some_iff.mp found with ⟨later, there, same⟩
          rw [List.length_cons, Nat.succ.injEq] at same
          rw [same] at there
          rw [List.cons_append, RoomFrom, if_neg other, inductionHypothesis there (place + 1),
            List.length_cons, show place + 1 + front.length = place + (front.length + 1) by omega]

/-- With no shorter text in its place, the string grows. -/
theorem length_le_replaceFrom (nonempty : pattern ≠ []) (grows : pattern.length ≤ insert.length)
    (skip : Nat) (text : List UInt8) :
    text.length ≤ (replaceFrom pattern insert skip text).length + skip := by
  have positive : 0 < pattern.length := List.length_pos_iff.mpr nonempty
  induction text generalizing skip with
  | nil => exact Nat.zero_le _
  | cons byte rest inductionHypothesis =>
      cases skip with
      | succ skip =>
          have later := inductionHypothesis skip
          rw [replaceFrom, List.length_cons]
          omega
      | zero =>
          rw [replaceFrom]
          split
          · have later := inductionHypothesis (pattern.length - 1)
            rw [List.length_append, List.length_cons]
            omega
          · have later := inductionHypothesis 0
            rw [List.length_cons, List.length_cons]
            omega

/-- There is room where the string fits twice, before and after. -/
theorem roomFrom_of_twice (nonempty : pattern ≠ []) {most place : Nat} (twice : 2 * most < size)
    (behind : start ≤ place) (now : place + text.length ≤ most)
    (later : place + (replaceAll pattern insert text).length ≤ most) :
    RoomFrom size pattern insert 0 start place text := by
  induction turns : text.length using Nat.strong_induction_on generalizing text start place with
  | _ turns inductionHypothesis =>
      cases found : findSub pattern text with
      | none => exact roomFrom_of_none found place
      | some position =>
          rcases findSub_split found with ⟨front, rest, whole, length, replaced⟩
          rw [replaced nonempty insert] at later
          subst whole length
          have positive : 0 < pattern.length := List.length_pos_iff.mpr nonempty
          rw [roomFrom_of_some nonempty found]
          simp only [List.length_append] at now later turns ⊢
          have moved : place + front.length + insert.length + rest.length ≤ most := by
            by_cases grows : pattern.length ≤ insert.length
            · have longer := length_le_replaceFrom nonempty grows 0 rest
              unfold replaceAll at later
              omega
            · omega
          refine ⟨by omega, by omega, inductionHypothesis _ ?_ (Nat.le_refl _) moved ?_ rfl⟩
          · omega
          · omega

end Places

/-! ## Main result -/

theorem readString_append {text : List UInt8} (ended : 0 ∉ text) (junk : List UInt8) :
    readString (text ++ 0 :: junk) = some text := by
  have others : ∀ byte ∈ text, (byte != 0) = true := fun byte member => by
    simpa using fun same : byte = 0 => ended (same ▸ member)
  rw [readString, if_pos (List.mem_append_right _ List.mem_cons_self),
    List.takeWhile_append_of_pos others]
  simp

/-- What the loop leaves behind the bytes that it has passed. -/
theorem allStringSubLoop_spec {pattern : List UInt8} (insert : List UInt8)
    (nonempty : pattern ≠ []) (fuel : Nat) (before text junk : List UInt8) (ended : 0 ∉ text)
    (enough : text.length < fuel)
    (small : (before ++ (text ++ 0 :: junk)).length ≤ 0x80000000) :
    (RoomFrom (before ++ (text ++ 0 :: junk)).length pattern insert 0 before.length before.length
        text → ∃ dragged,
      allStringSubLoop pattern insert fuel (before ++ (text ++ 0 :: junk)) before.length
        (before.length + text.length) =
          some (before ++ (replaceAll pattern insert text ++ 0 :: dragged))) ∧
    (¬ RoomFrom (before ++ (text ++ 0 :: junk)).length pattern insert 0 before.length before.length
        text →
      allStringSubLoop pattern insert fuel (before ++ (text ++ 0 :: junk)) before.length
        (before.length + text.length) = none) := by
  induction fuel generalizing before text junk with
  | zero => exact absurd enough (Nat.not_lt_zero _)
  | succ fuel inductionHypothesis =>
      rw [allStringSubLoop, List.drop_left, readString_append ended, Option.bind_some]
      cases found : findSub pattern text with
      | none =>
          have stays : (if pattern.length ≤ before.length + text.length then
              some (before ++ (text ++ 0 :: junk)) else some (before ++ (text ++ 0 :: junk))) =
                some (before ++ (text ++ 0 :: junk)) := ite_self _
          refine ⟨fun _ => ⟨junk, ?_⟩, fun full => absurd (roomFrom_of_none found _) full⟩
          rw [replaceAll_of_none found]
          exact stays
      | some place =>
          rcases findSub_split found with ⟨front, behind, whole, length, replaced⟩
          subst whole length
          have long : pattern.length ≤
              before.length + (front ++ (pattern ++ behind)).length := by
            simp only [List.length_append]
            omega
          have positive : 0 < pattern.length := List.length_pos_iff.mpr nonempty
          have buffer : before ++ (front ++ (pattern ++ behind) ++ 0 :: junk) =
              (before ++ front) ++ (pattern ++ (behind ++ 0 :: junk)) := by
            simp only [List.append_assoc]
          have count : moveCount (before.length + (front ++ (pattern ++ behind)).length)
              front.length pattern.length = before.length + behind.length + 1 := by
            simp only [List.length_append, List.length_cons] at small ⊢
            rw [moveCount_eq (by omega) (by omega) positive]
            omega
          have searched : (pattern ++ behind).length = pattern.length + behind.length :=
            List.length_append
          have position : before.length + front.length = (before ++ front).length :=
            List.length_append.symm
          rw [if_pos long, roomFrom_of_some nonempty found, replaced nonempty]
          dsimp only
          rw [count, position, buffer]
          generalize whole : (before ++ front) ++ (pattern ++ (behind ++ 0 :: junk)) = buf
          by_cases inside : (before ++ front).length + pattern.length +
              (before.length + behind.length + 1) ≤ buf.length ∧
            (before ++ front).length + insert.length +
              (before.length + behind.length + 1) ≤ buf.length
          · subst whole
            rcases memmove_inside inside.1 inside.2 with ⟨middle, dragged, same, moved⟩
            have size := memmove_length moved
            have advanced : (before ++ front).length + insert.length =
                (before ++ front ++ insert).length := List.length_append.symm
            have length : before.length + (front ++ (pattern ++ behind)).length + insert.length -
                pattern.length = (before ++ front ++ insert).length + behind.length := by
              simp only [List.length_append]
              omega
            have written : before ++ front ++ (insert ++ (behind ++ 0 :: dragged)) =
                (before ++ front ++ insert) ++ (behind ++ 0 :: dragged) := by
              simp only [List.append_assoc]
            have kept : (before ++ front ++ (pattern ++ (behind ++ 0 :: junk))).length =
                ((before ++ front ++ insert) ++ (behind ++ 0 :: dragged)).length := by
              rw [← size, ← written]
              simp only [List.length_append, same]
            obtain ⟨succeeds, fails⟩ := inductionHypothesis (before ++ front ++ insert) behind
              dragged (fun member => ended (by simp [member])) (by
                simp only [List.length_append] at enough
                omega) (by rw [← kept, ← buffer]; exact small)
            rw [moved, Option.bind_some, memcpy_middle same, Option.bind_some, advanced, length,
              written]
            constructor
            · rintro ⟨_, _, later⟩
              rw [kept] at later
              rcases succeeds later with ⟨after, done⟩
              refine ⟨after, ?_⟩
              rw [done]
              simp only [List.append_assoc]
            · intro outside
              refine fails fun later => outside ⟨?_, ?_, kept ▸ later⟩
              · omega
              · omega
          · rw [memmove_none inside]
            refine ⟨?_, fun _ => rfl⟩
            rintro ⟨source, target, _⟩
            exact absurd (by omega) inside

theorem allStringSubLoop_length {pattern insert : List UInt8} (fuel : Nat) {buf result : List UInt8}
    {s ls : Nat} (done : allStringSubLoop pattern insert fuel buf s ls = some result) :
    result.length = buf.length := by
  induction fuel generalizing buf s ls with
  | zero => cases done
  | succ fuel inductionHypothesis =>
      rw [allStringSubLoop] at done
      split at done
      · rcases Option.bind_eq_some_iff.mp done with ⟨text, _, continued⟩
        cases found : findSub pattern text with
        | none =>
            rw [found] at continued
            cases continued
            rfl
        | some place =>
            rw [found] at continued
            rcases Option.bind_eq_some_iff.mp continued with ⟨moved, first, continued⟩
            rcases Option.bind_eq_some_iff.mp continued with ⟨written, second, continued⟩
            rw [inductionHypothesis continued, memcpy_length second, memmove_length first]
      · cases done
        rfl

theorem allStringSub_length {buf pattern insert result : List UInt8}
    (done : allStringSub buf pattern insert = some result) : result.length = buf.length := by
  rcases Option.bind_eq_some_iff.mp done with ⟨text, _, continued⟩
  split at continued
  · cases continued
    rfl
  · exact allStringSubLoop_length _ continued

/-- A string in a buffer is replaced from the left, if there is room for it. -/
theorem allStringSub_spec {pattern text : List UInt8} (insert junk : List UInt8)
    (nonempty : pattern ≠ []) (ended : 0 ∉ text)
    (small : (text ++ 0 :: junk).length ≤ 0x80000000) :
    (Room (text ++ 0 :: junk).length pattern insert text → ∃ dragged,
      allStringSub (text ++ 0 :: junk) pattern insert =
        some (replaceAll pattern insert text ++ 0 :: dragged)) ∧
    (¬ Room (text ++ 0 :: junk).length pattern insert text →
      allStringSub (text ++ 0 :: junk) pattern insert = none) := by
  have enough : text.length < (text ++ 0 :: junk).length + 1 := by
    rw [List.length_append]
    omega
  have loop := allStringSubLoop_spec insert nonempty _ [] text junk ended enough small
  rw [allStringSub, readString_append ended, Option.bind_some, if_neg nonempty]
  rw [List.nil_append, List.length_nil, Nat.zero_add] at loop
  exact loop

/-- In a buffer of up to 2 GiB `all_string_sub` replaces the pattern from the left and keeps the
size of the buffer if there is room for each replacement, and leaves the buffer if there is not.
There is room where the buffer is more than twice as long as the string, before and after. -/
theorem allStringSub_replaces {pattern text : List UInt8} (insert junk : List UInt8)
    (nonempty : pattern ≠ []) (ended : 0 ∉ text)
    (small : (text ++ 0 :: junk).length ≤ 0x80000000) :
    (Room (text ++ 0 :: junk).length pattern insert text ↔ ∃ dragged,
      allStringSub (text ++ 0 :: junk) pattern insert =
        some (replaceAll pattern insert text ++ 0 :: dragged)) ∧
    (¬ Room (text ++ 0 :: junk).length pattern insert text ↔
      allStringSub (text ++ 0 :: junk) pattern insert = none) ∧
    (2 * max text.length (replaceAll pattern insert text).length < (text ++ 0 :: junk).length →
      Room (text ++ 0 :: junk).length pattern insert text) := by
  rcases allStringSub_spec insert junk nonempty ended small with ⟨succeeds, fails⟩
  refine ⟨⟨succeeds, ?_⟩, ⟨fails, ?_⟩, fun twice => ?_⟩
  · rintro ⟨dragged, done⟩
    by_contra full
    rw [fails full] at done
    cases done
  · intro left room
    rcases succeeds room with ⟨dragged, done⟩
    rw [left] at done
    cases done
  · apply roomFrom_of_twice nonempty twice (Nat.le_refl 0)
    · rw [Nat.zero_add]
      exact Nat.le_max_left _ _
    · rw [Nat.zero_add]
      exact Nat.le_max_right _ _

/-- A path of five bytes has room in eight, and not in seven. -/
theorem allStringSub_replaces_path :
    (∃ dragged, allStringSub [97, 92, 98, 92, 99, 0, 1, 2] [92] [47] =
      some (replaceAll [92] [47] [97, 92, 98, 92, 99] ++ 0 :: dragged)) ∧
      allStringSub [97, 92, 98, 92, 99, 0, 1] [92] [47] = none := by
  have pattern : ([92] : List UInt8) ≠ [] := List.cons_ne_nil 92 []
  have ended : 0 ∉ ([97, 92, 98, 92, 99] : List UInt8) := by decide
  exact ⟨(allStringSub_replaces [47] [1, 2] pattern ended (by decide)).1.mp (by decide),
    (allStringSub_replaces [47] [1] pattern ended (by decide)).2.1.mp (by decide)⟩

end Tbench
end Ipbench
