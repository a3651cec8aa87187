import Ipbench.Daemon.Steps

namespace Ipbench
namespace Daemon

open Foundation

/-!
# ABORT

The controller's reset sends ABORT on one connection and HELLO on the next.
ABORT is meant to stop the running test and to leave a clear flag.  The
handler clears the flag on one path only, when the owner's process does not
exist, and that path returns nothing that the state machine could unpack.
Whoever else is killed leaves its identifier behind.  The forked child of a
target has an ABORT of its own, which signals its parent and never touches the
flag; when the parent is gone, `os.kill` raises and nothing catches it.
-/

/-- What ABORT is for: the step returns what `StateMachine.run` can unpack, or
ends its own process, and a HELLO on a new connection is accepted. -/
structure AbortResets (options : Options) (status : Nat)
    (result : Outcome × List SessionEvent) : Prop where
  unpacks : result.1 = .finished ∨ result.1 = .killed ∨ result.1 = .exited
  cleared : statusAfter status result.2 = 0
  admits : ∀ (pids : Nat → Nat) (hello : SessionInput), hello.lineIn = some "HELLO".toList →
    hello.writable = true →
      (handle options pids (statusAfter status result.2) 0 .listen hello).1 = .reading .setup

theorem handle_hello (options : Options) (pids : Nat → Nat) {hello : SessionInput}
    (line : hello.lineIn = some "HELLO".toList) (written : hello.writable = true) :
    (handle options pids 0 0 .listen hello).1 = .reading .setup := by
  rw [handle_line options pids 0 0 .listen line (by decide), dispatch, listen, leaving,
    if_neg (by decide), if_neg (by decide), if_pos (by decide), if_neg (by decide), answer,
    if_pos written]

theorem abortResets_of_cleared (options : Options) {status : Nat}
    {result : Outcome × List SessionEvent}
    (unpacks : result.1 = .finished ∨ result.1 = .killed ∨ result.1 = .exited)
    (cleared : statusAfter status result.2 = 0) : AbortResets options status result where
  unpacks := unpacks
  cleared := cleared
  admits := by
    intro pids hello line written
    rw [cleared]
    exact handle_hello options pids line written

/-- ABORT reaches the handler of ABORT from every phase but the child's. -/
theorem handle_abort (options : Options) (pids : Nat → Nat) (status process : Nat)
    (phase : Phase) {input : SessionInput} (line : input.lineIn = some "ABORT".toList) :
    handle options pids status process phase input =
      if phase = .child then
        (if input.kills.found then .exited else .raised, [.killed (pids (process - 1)) .sigint])
      else abort status (pids process) input.kills := by
  rw [handle_line options pids status process phase line (by decide)]
  cases phase with
  | listen => rfl
  | setup => rfl
  | loaded => rfl
  | run => rfl
  | child => rfl

/-- The paths of the handler of ABORT and what they leave in the flag. -/
inductive AbortPath (status pid : Nat) (kills : KillResults)
    (result : Outcome × List SessionEvent) : Prop where
  | idle (free : status = 0) (outcome : result.1 = .finished)
      (kept : statusAfter status result.2 = status)
  | vanished (busy : status ≠ 0) (missing : kills.found = false) (outcome : result.1 = .raised)
  | killsItself (busy : status ≠ 0) (own : status = pid) (outcome : result.1 = .killed)
      (kept : statusAfter status result.2 = status)
  | killsOther (busy : status ≠ 0) (found : kills.found = true) (other : status ≠ pid)
      (outcome : result.1 = .finished)
      (kept : statusAfter status result.2 = if kills.clears then 0 else status)

theorem abort_path (status pid : Nat) (kills : KillResults) :
    AbortPath status pid kills (abort status pid kills) := by
  have signals : ∀ rest : List SessionEvent,
      statusAfter status ((.killed status .sigint ::
        if kills.foundAgain then [.killed status .sigkill] else []) ++ rest) =
        statusAfter status rest := by
    intro rest
    cases kills.foundAgain with
    | true => rfl
    | false => rfl
  unfold abort
  by_cases free : status = 0
  · rw [if_pos free]
    exact .idle free rfl rfl
  rw [if_neg free]
  by_cases missing : kills.found = false
  · rw [if_pos missing]
    exact .vanished free missing rfl
  rw [if_neg missing]
  by_cases own : status = pid
  · rw [if_pos own]
    exact .killsItself free own rfl (signals [])
  · rw [if_neg own]
    refine .killsOther free (Bool.of_not_eq_false missing) own rfl ?_
    refine (signals _).trans ?_
    cases kills.clears with
    | true => rfl
    | false => rfl

/-- ABORT does what it is for exactly when no test is running and the signal of
a child finds its parent, or when the owner is another process that receives
the first signal and still clears the flag itself before it dies. -/
theorem abortResets_iff (options : Options) (pids : Nat → Nat) (status process : Nat)
    (phase : Phase) (input : SessionInput) (line : input.lineIn = some "ABORT".toList) :
    AbortResets options status (handle options pids status process phase input) ↔
      (status = 0 ∧ (phase = .child → input.kills.found = true)) ∨
        (phase ≠ .child ∧ status ≠ pids process ∧ input.kills.found = true ∧
          input.kills.clears = true) := by
  rw [handle_abort options pids status process phase line]
  by_cases child : phase = .child
  · rw [if_pos child]
    cases found : input.kills.found with
    | true =>
        constructor
        · exact fun resets => Or.inl ⟨resets.cleared, fun _ => rfl⟩
        · rintro (⟨free, _⟩ | ⟨parent, _⟩)
          · exact abortResets_of_cleared options (Or.inr (Or.inr rfl)) free
          · exact False.elim (parent child)
    | false =>
        refine iff_of_false ?_ ?_
        · intro resets
          rcases resets.unpacks with impossible | impossible | impossible <;> cases impossible
        · rintro (⟨_, present⟩ | ⟨parent, _⟩)
          · exact Bool.false_ne_true (present child)
          · exact parent child
  rw [if_neg child]
  have path := abort_path status (pids process) input.kills
  generalize abort status (pids process) input.kills = result at path ⊢
  cases path with
  | idle free outcome kept =>
      refine iff_of_true (abortResets_of_cleared options (Or.inl outcome) ?_)
        (Or.inl ⟨free, fun same => absurd same child⟩)
      rw [kept, free]
  | vanished busy missing outcome =>
      refine iff_of_false ?_ ?_
      · intro resets
        rcases resets.unpacks with finished | killed | exited
        · rw [outcome] at finished
          cases finished
        · rw [outcome] at killed
          cases killed
        · rw [outcome] at exited
          cases exited
      · rintro (⟨free, _⟩ | ⟨_, _, found, _⟩)
        · exact busy free
        · rw [missing] at found
          cases found
  | killsItself busy own outcome kept =>
      refine iff_of_false ?_ ?_
      · intro resets
        exact busy (kept.symm.trans resets.cleared)
      · rintro (⟨free, _⟩ | ⟨_, other, _⟩)
        · exact busy free
        · exact other own
  | killsOther busy found other outcome kept =>
      cases clears : input.kills.clears with
      | true =>
          rw [clears, if_pos rfl] at kept
          exact iff_of_true (abortResets_of_cleared options (Or.inl outcome) kept)
            (Or.inr ⟨child, other, found, rfl⟩)
      | false =>
          rw [clears] at kept
          refine iff_of_false ?_ ?_
          · intro resets
            exact busy (kept.symm.trans resets.cleared)
          · rintro (⟨free, _⟩ | ⟨_, _, _, impossible⟩)
            · exact busy free
            · cases impossible

theorem abortResets_iff_idle :
    AbortResets clientOptions 0
      (handle clientOptions (fun _ => 8) 0 0 .listen (textInput "ABORT")) :=
  (abortResets_iff clientOptions (fun _ => 8) 0 0 .listen (textInput "ABORT") (by decide)).mpr
    (Or.inl ⟨rfl, fun impossible => absurd impossible (by decide)⟩)

/-- The test of process 7 is running.  ABORT from process 8 kills it and ends
normally, but the flag still holds 7 and the next HELLO is refused. -/
theorem abort_keepsFlag :
    let aborted := handle clientOptions (fun _ => 8) 7 0 .listen (textInput "ABORT")
    aborted.1 = .finished ∧ .killed 7 .sigkill ∈ aborted.2 ∧ statusAfter 7 aborted.2 = 7 ∧
      handle clientOptions (fun _ => 9) (statusAfter 7 aborted.2) 0 .listen (textInput "HELLO") =
        (.finished, [.sent "421 SERVICE NOT AVAILABLE (Already Running)\n".toList]) := by
  decide

end Daemon
end Ipbench
