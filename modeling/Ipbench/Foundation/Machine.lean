import Mathlib.Data.List.Basic
import Mathlib.Data.List.Induction
import Mathlib.Data.Nat.Init

namespace Ipbench
namespace Foundation

/-!
# Deterministic machines with an event trace

A machine consumes one input at a time.  Each step returns the next state and
the events it emitted, so the trace of a run is a function of its inputs and
never part of the state.  Nondeterminism of an environment (the network, a
clock, a scheduler, a library call) is carried by the inputs.

The induction over a run is made once, in `run_invariant`.  Its condition may
read the trace emitted so far, since an environment can be constrained by
what it was given earlier.  A development instantiates the rule with its own
invariant and only proves what one step preserves.
-/

universe u v w

/-- One step consumes an input and emits finitely many events. -/
structure Machine (State : Type u) (Input : Type v) (Event : Type w) where
  step : State → Input → State × List Event

namespace Machine

variable {State : Type u} {Input : Type v} {Event : Type w}

/-- The final state of a run, together with everything it emitted. -/
def run (machine : Machine State Input Event) : State → List Input → State × List Event
  | state, [] => (state, [])
  | state, input :: rest =>
      let next := machine.step state input
      let tail := machine.run next.1 rest
      (tail.1, next.2 ++ tail.2)

@[simp] theorem run_nil (machine : Machine State Input Event) (state : State) :
    machine.run state [] = (state, []) := rfl

theorem run_append (machine : Machine State Input Event) (state : State)
    (first second : List Input) :
    machine.run state (first ++ second) =
      ((machine.run (machine.run state first).1 second).1,
        (machine.run state first).2 ++ (machine.run (machine.run state first).1 second).2) := by
  induction first generalizing state with
  | nil => rfl
  | cons input rest inductionHypothesis =>
      simp only [List.cons_append, run, inductionHypothesis, List.append_assoc]

/-- Running one input more appends exactly that step. -/
theorem run_concat (machine : Machine State Input Event) (state : State)
    (inputs : List Input) (input : Input) :
    machine.run state (inputs ++ [input]) =
      ((machine.step (machine.run state inputs).1 input).1,
        (machine.run state inputs).2 ++ (machine.step (machine.run state inputs).1 input).2) := by
  rw [run_append]
  simp only [run, List.append_nil]

theorem run_cons_of_step {machine : Machine State Input Event} {state next : State}
    {input : Input} {events : List Event} (stepped : machine.step state input = (next, events))
    (rest : List Input) :
    machine.run state (input :: rest) =
      ((machine.run next rest).1, events ++ (machine.run next rest).2) := by
  rw [run, stepped]

theorem run_of_still {machine : Machine State Input Event} {state : State}
    (still : ∀ input, machine.step state input = (state, [])) (inputs : List Input) :
    machine.run state inputs = (state, []) := by
  induction inputs with
  | nil => rfl
  | cons input rest inductionHypothesis =>
      rw [run_cons_of_step (still input), inductionHypothesis]
      rfl

/-- A condition on the state before a step, the trace so far and the input,
required of every step of a run. -/
def Along (machine : Machine State Input Event)
    (condition : State → List Event → Input → Prop) :
    State → List Event → List Input → Prop
  | _, _, [] => True
  | state, trace, input :: rest =>
      condition state trace input ∧
        machine.Along condition (machine.step state input).1
          (trace ++ (machine.step state input).2) rest

instance decidableAlong (machine : Machine State Input Event)
    (condition : State → List Event → Input → Prop)
    [∀ state trace input, Decidable (condition state trace input)] :
    (state : State) → (trace : List Event) → (inputs : List Input) →
      Decidable (machine.Along condition state trace inputs)
  | _, _, [] => .isTrue trivial
  | state, trace, input :: rest =>
      have := machine.decidableAlong condition (machine.step state input).1
        (trace ++ (machine.step state input).2) rest
      inferInstanceAs (Decidable (_ ∧ _))

theorem along_append (machine : Machine State Input Event)
    (condition : State → List Event → Input → Prop) (state : State) (trace : List Event)
    (first second : List Input) :
    machine.Along condition state trace (first ++ second) ↔
      machine.Along condition state trace first ∧
        machine.Along condition (machine.run state first).1
          (trace ++ (machine.run state first).2) second := by
  induction first generalizing state trace with
  | nil => simp [Along]
  | cons input rest inductionHypothesis =>
      simp only [List.cons_append, Along, inductionHypothesis, run, List.append_assoc, and_assoc]

theorem along_true (machine : Machine State Input Event) (state : State) (trace : List Event)
    (inputs : List Input) : machine.Along (fun _ _ _ => True) state trace inputs := by
  induction inputs generalizing state trace with
  | nil => trivial
  | cons input rest inductionHypothesis => exact ⟨trivial, inductionHypothesis _ _⟩

/-- A condition on the inputs alone may be added to any other. -/
theorem Along.and_of_forall {machine : Machine State Input Event}
    {condition : State → List Event → Input → Prop} {property : Input → Prop} {state : State}
    {trace : List Event} {inputs : List Input} (each : ∀ input ∈ inputs, property input)
    (along : machine.Along condition state trace inputs) :
    machine.Along (fun state trace input => property input ∧ condition state trace input)
      state trace inputs := by
  induction inputs generalizing state trace with
  | nil => trivial
  | cons input rest inductionHypothesis =>
      exact ⟨⟨each input List.mem_cons_self, along.1⟩, inductionHypothesis
        (fun later member => each later (List.mem_cons_of_mem _ member)) along.2⟩

private theorem run_invariant_from (machine : Machine State Input Event)
    {condition : State → List Event → Input → Prop} {invariant : State → List Event → Prop}
    (preserved : ∀ state trace input, invariant state trace → condition state trace input →
      invariant (machine.step state input).1 (trace ++ (machine.step state input).2))
    (state : State) (trace : List Event) (inputs : List Input)
    (start : invariant state trace) (along : machine.Along condition state trace inputs) :
    invariant (machine.run state inputs).1 (trace ++ (machine.run state inputs).2) := by
  induction inputs generalizing state trace with
  | nil => simpa using start
  | cons input rest inductionHypothesis =>
      have next := preserved state trace input start along.1
      have finished := inductionHypothesis _ _ next along.2
      simpa only [run, List.append_assoc] using finished

/-- The invariant rule: what holds at the start and is preserved by every
step that meets the condition holds after every run along the condition. -/
theorem run_invariant (machine : Machine State Input Event)
    {condition : State → List Event → Input → Prop} {invariant : State → List Event → Prop}
    (preserved : ∀ state trace input, invariant state trace → condition state trace input →
      invariant (machine.step state input).1 (trace ++ (machine.step state input).2))
    {state : State} {inputs : List Input} (start : invariant state [])
    (along : machine.Along condition state [] inputs) :
    invariant (machine.run state inputs).1 (machine.run state inputs).2 :=
  machine.run_invariant_from preserved state [] inputs start along

/-- The rule for an invariant that does not mention the trace. -/
theorem run_state_invariant (machine : Machine State Input Event)
    {condition : State → List Event → Input → Prop} (invariant : State → Prop)
    (preserved : ∀ state trace input, invariant state → condition state trace input →
      invariant (machine.step state input).1)
    {state : State} {inputs : List Input} (start : invariant state)
    (along : machine.Along condition state [] inputs) :
    invariant (machine.run state inputs).1 :=
  machine.run_invariant_from (fun state trace input => preserved state trace input) state []
    inputs start along

/-! ## Two machines -/

/-- A relation between the states of two machines that every input preserves, and
under which both emit the same. -/
structure Simulates {Other : Type u} (machine : Machine State Input Event)
    (model : Machine Other Input Event) (related : State → Other → Prop) : Prop where
  next : ∀ state other input, related state other →
    related (machine.step state input).1 (model.step other input).1
  emits : ∀ state other input, related state other →
    (machine.step state input).2 = (model.step other input).2

/-- Related machines stay related, and their runs emit the same. -/
theorem Simulates.run {Other : Type u} {machine : Machine State Input Event}
    {model : Machine Other Input Event} {related : State → Other → Prop}
    (simulates : machine.Simulates model related) {state : State} {other : Other}
    (start : related state other) (inputs : List Input) :
    related (machine.run state inputs).1 (model.run other inputs).1 ∧
      (machine.run state inputs).2 = (model.run other inputs).2 := by
  induction inputs generalizing state other with
  | nil => exact ⟨start, rfl⟩
  | cons input rest inductionHypothesis =>
      have later := inductionHypothesis (simulates.next state other input start)
      refine ⟨later.1, ?_⟩
      rw [Machine.run, Machine.run, simulates.emits state other input start, later.2]

/-! ## The log of a run -/

/-- Each input of a run with what had been emitted before it. -/
def log (machine : Machine State Input Event) :
    State → List Event → List Input → List (List Event × Input)
  | _, _, [] => []
  | state, trace, input :: rest =>
      (trace, input) ::
        machine.log (machine.step state input).1 (trace ++ (machine.step state input).2) rest

/-- One input more is logged with everything emitted before it. -/
theorem log_concat (machine : Machine State Input Event) (state : State) (trace : List Event)
    (inputs : List Input) (input : Input) :
    machine.log state trace (inputs ++ [input]) =
      machine.log state trace inputs ++ [(trace ++ (machine.run state inputs).2, input)] := by
  induction inputs generalizing state trace with
  | nil => rw [run_nil, List.append_nil]; rfl
  | cons earlier rest inductionHypothesis =>
      rw [List.cons_append, log, log, inductionHypothesis, List.cons_append, run,
        List.append_assoc]

/-! ## Unbounded inputs -/

/-- The state after the first `count` inputs of a sequence. -/
def after (machine : Machine State Input Event) (state : State) (inputs : Nat → Input)
    (count : Nat) : State :=
  (machine.run state ((List.range count).map inputs)).1

theorem after_succ (machine : Machine State Input Event) (state : State)
    (inputs : Nat → Input) (count : Nat) :
    machine.after state inputs (count + 1) =
      (machine.step (machine.after state inputs count) (inputs count)).1 := by
  unfold after
  rw [List.range_succ, List.map_append, List.map_cons, List.map_nil, run_concat]

/-- What holds at some point and is preserved from there on holds ever after. -/
theorem after_invariant (machine : Machine State Input Event) {state : State}
    {inputs : Nat → Input} (invariant : Nat → State → Prop) {first : Nat}
    (start : invariant first (machine.after state inputs first))
    (preserved : ∀ count, first ≤ count →
      invariant count (machine.after state inputs count) →
      invariant (count + 1)
        (machine.step (machine.after state inputs count) (inputs count)).1) :
    ∀ count, first ≤ count → invariant count (machine.after state inputs count) := by
  intro count later
  induction count, later using Nat.le_induction with
  | base => exact start
  | succ count later inductionHypothesis =>
      rw [after_succ]
      exact preserved count later inductionHypothesis

end Machine

/-! ## Properties of events relative to their past -/

variable {Event : Type w}

/-- Every event of the trace is as it should be, given the events before it. -/
def EachEvent (property : List Event → Event → Prop) (trace : List Event) : Prop :=
  ∀ before event after, trace = before ++ event :: after → property before event

theorem eachEvent_nil (property : List Event → Event → Prop) : EachEvent property [] := by
  intro before event after split
  cases before <;> cases split

theorem EachEvent.concat {property : List Event → Event → Prop} {trace : List Event}
    (each : EachEvent property trace) {event : Event} (last : property trace event) :
    EachEvent property (trace ++ [event]) := by
  intro before other after split
  rcases List.eq_nil_or_concat after with empty | ⟨earlier, final, same⟩
  · subst empty
    have parts := List.append_inj' split rfl
    rw [← parts.1, ← (List.cons.inj parts.2).1]
    exact last
  · subst same
    rw [List.concat_eq_append, ← List.cons_append, ← List.append_assoc] at split
    exact each before other earlier (List.append_inj' split rfl).1

/-- Events that are as they should be after the trace, whatever comes between,
may be appended. -/
theorem EachEvent.append {property : List Event → Event → Prop} {trace events : List Event}
    (each : EachEvent property trace)
    (free : ∀ event ∈ events, ∀ middle, property (trace ++ middle) event) :
    EachEvent property (trace ++ events) := by
  induction events generalizing trace with
  | nil => simpa using each
  | cons event rest inductionHypothesis =>
      have here := free event List.mem_cons_self []
      rw [List.append_nil] at here
      have next := inductionHypothesis (each.concat here) (fun later member middle => by
        rw [List.append_assoc]
        exact free later (List.mem_cons_of_mem _ member) ([event] ++ middle))
      rwa [List.append_assoc] at next

end Foundation
end Ipbench
