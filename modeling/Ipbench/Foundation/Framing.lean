import Mathlib.Data.List.Basic
import Mathlib.Tactic.Ring

namespace Ipbench
namespace Foundation

/-!
# Frames of a byte stream

A stream that concatenates frames of one length can be cut back into them.
The receiver of such a stream sees an arbitrary initial segment of it; once
that segment holds `count` whole frames and nothing else, these are the first
`count` frames sent.
-/

universe u

variable {Element : Type u}

/-- The concatenation of the first `count` frames. -/
def frames (frame : Nat → List Element) : Nat → List Element
  | 0 => []
  | count + 1 => frames frame count ++ frame count

theorem frames_length {frame : Nat → List Element} {width : Nat}
    (uniform : ∀ index, (frame index).length = width) (count : Nat) :
    (frames frame count).length = count * width := by
  induction count with
  | zero => simp [frames]
  | succ count inductionHypothesis =>
      rw [frames, List.length_append, inductionHypothesis, uniform, Nat.succ_mul]

theorem frames_split (frame : Nat → List Element) {first count : Nat} (below : first < count) :
    ∃ rest, frames frame count = frames frame first ++ (frame first ++ rest) := by
  induction count with
  | zero => exact False.elim (Nat.not_lt_zero _ below)
  | succ count inductionHypothesis =>
      rcases Nat.lt_succ_iff_lt_or_eq.mp below with earlier | same
      · rcases inductionHypothesis earlier with ⟨rest, split⟩
        exact ⟨rest ++ frame count, by rw [frames, split, List.append_assoc, List.append_assoc]⟩
      · subst same
        exact ⟨[], by rw [frames, List.append_nil]⟩

/-- A whole frame received after `received` others, out of `sent` whole frames
and a strict part of the next, was sent completely and is the frame expected. -/
theorem frame_of_isPrefix {frame : Nat → List Element} {width received sent : Nat}
    {last part : List Element} (uniform : ∀ index, (frame index).length = width)
    (whole : last.length = width) (strict : part.length < width)
    (echoed : frames frame received ++ last <+: frames frame sent ++ part) :
    received < sent ∧ last = frame received := by
  have lengths := echoed.length_le
  rw [List.length_append, List.length_append, frames_length uniform, frames_length uniform,
    whole] at lengths
  have below : received < sent := by
    by_contra beyond
    have ordered : sent ≤ received := Nat.le_of_not_lt beyond
    have scaled := Nat.mul_le_mul_right width ordered
    omega
  refine ⟨below, ?_⟩
  rcases frames_split frame below with ⟨rest, split⟩
  rw [split, List.append_assoc, List.append_assoc, List.prefix_append_right_inj] at echoed
  have same := List.prefix_iff_eq_take.mp echoed
  rw [whole, ← uniform received, List.take_left] at same
  exact same

end Foundation
end Ipbench
