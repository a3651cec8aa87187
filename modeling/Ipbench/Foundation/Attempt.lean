import Mathlib.Data.List.Basic

namespace Ipbench
namespace Foundation

/-!
# Attempts that may halt

An attempt is what a piece of straight-line code does: the events it causes, in
order, and the reason why it did not come to its end, if it did not.  What
follows a halted attempt does not happen; what has happened stays.
-/

universe u v w

structure Attempt (Event : Type u) (Reason : Type v) where
  events : List Event
  halted : Option Reason
deriving DecidableEq, Repr

namespace Attempt

variable {Event : Type u} {Reason : Type v} {Item : Type w}

def done : Attempt Event Reason where
  events := []
  halted := none

def halt (reason : Reason) : Attempt Event Reason where
  events := []
  halted := some reason

def emit (events : List Event) (next : Attempt Event Reason) : Attempt Event Reason where
  events := events ++ next.events
  halted := next.halted

def andThen (first second : Attempt Event Reason) : Attempt Event Reason :=
  match first.halted with
  | none => emit first.events second
  | some reason => { events := first.events, halted := some reason }

/-- The body of a loop, for each item in turn. -/
def each (body : Item → Attempt Event Reason) : List Item → Attempt Event Reason
  | [] => done
  | item :: rest => (body item).andThen (each body rest)

theorem andThen_of_none {first : Attempt Event Reason} (ended : first.halted = none)
    (second : Attempt Event Reason) :
    first.andThen second = emit first.events second := by
  rw [andThen, ended]

theorem andThen_of_halted {first : Attempt Event Reason} (halted : first.halted ≠ none)
    (second : Attempt Event Reason) : first.andThen second = first := by
  rcases first with ⟨events, reason⟩
  cases reason with
  | none => exact absurd rfl halted
  | some reason => rfl

theorem andThen_halted_eq_none {first second : Attempt Event Reason} :
    (first.andThen second).halted = none ↔ first.halted = none ∧ second.halted = none := by
  by_cases ended : first.halted = none
  · rw [andThen_of_none ended]
    exact ⟨fun later => ⟨ended, later⟩, fun both => both.2⟩
  · rw [andThen_of_halted ended]
    exact ⟨fun other => absurd other ended, fun both => both.1⟩

theorem andThen_assoc (first second third : Attempt Event Reason) :
    (first.andThen second).andThen third = first.andThen (second.andThen third) := by
  by_cases ended : first.halted = none
  · rw [andThen_of_none ended, andThen_of_none ended]
    by_cases next : second.halted = none
    · rw [andThen_of_none next, andThen_of_none (show (emit first.events second).halted = none
        from next)]
      unfold emit
      rw [List.append_assoc]
    · rw [andThen_of_halted next,
        andThen_of_halted (show (emit first.events second).halted ≠ none from next)]
  · rw [andThen_of_halted ended, andThen_of_halted ended, andThen_of_halted ended]

theorem mem_andThen_left {first : Attempt Event Reason} {event : Event}
    (member : event ∈ first.events) (second : Attempt Event Reason) :
    event ∈ (first.andThen second).events := by
  by_cases ended : first.halted = none
  · rw [andThen_of_none ended]
    exact List.mem_append_left _ member
  · rw [andThen_of_halted ended]
    exact member

theorem mem_andThen {first second : Attempt Event Reason} {event : Event}
    (member : event ∈ (first.andThen second).events) :
    event ∈ first.events ∨ event ∈ second.events := by
  by_cases ended : first.halted = none
  · rw [andThen_of_none ended] at member
    exact List.mem_append.mp member
  · rw [andThen_of_halted ended] at member
    exact Or.inl member

section Loops

variable {body : Item → Attempt Event Reason}

theorem each_halted_eq_none {items : List Item} :
    (each body items).halted = none ↔ ∀ item ∈ items, (body item).halted = none := by
  induction items with
  | nil => exact iff_of_true rfl fun item member => absurd member List.not_mem_nil
  | cons first rest inductionHypothesis =>
      rw [each, andThen_halted_eq_none, inductionHypothesis, List.forall_mem_cons]

theorem mem_each {items : List Item} {event : Event}
    (member : event ∈ (each body items).events) : ∃ item ∈ items, event ∈ (body item).events := by
  induction items with
  | nil => cases member
  | cons first rest inductionHypothesis =>
      rcases mem_andThen member with here | later
      · exact ⟨first, List.mem_cons_self, here⟩
      · rcases inductionHypothesis later with ⟨item, listed, there⟩
        exact ⟨item, List.mem_cons_of_mem _ listed, there⟩

theorem mem_each_of_dropLast {items : List Item}
    (ended : ∀ item ∈ items.dropLast, (body item).halted = none) {item : Item}
    (listed : item ∈ items) {event : Event} (member : event ∈ (body item).events) :
    event ∈ (each body items).events := by
  induction items with
  | nil => cases listed
  | cons first rest inductionHypothesis =>
      rcases List.mem_cons.mp listed with rfl | later
      · exact mem_andThen_left member _
      · have more : rest ≠ [] := List.ne_nil_of_mem later
        rw [List.dropLast_cons_of_ne_nil more] at ended
        rw [each, andThen_of_none (ended first List.mem_cons_self)]
        exact List.mem_append_right _
          (inductionHypothesis (fun other member => ended other (List.mem_cons_of_mem _ member))
            later)

/-- When only the last turn halts, the loop halts for its reason. -/
theorem each_halted_of_dropLast {items : List Item}
    (ended : ∀ item ∈ items.dropLast, (body item).halted = none) {item : Item}
    (listed : item ∈ items) (halts : (body item).halted ≠ none) :
    (each body items).halted = (body item).halted := by
  induction items with
  | nil => cases listed
  | cons first rest inductionHypothesis =>
      by_cases more : rest = []
      · rw [more] at listed ⊢
        rw [List.mem_singleton.mp listed] at halts ⊢
        rw [each, andThen_of_halted halts]
      · rw [List.dropLast_cons_of_ne_nil more] at ended
        have here := ended first List.mem_cons_self
        rw [each, andThen_of_none here]
        rcases List.mem_cons.mp listed with rfl | later
        · exact absurd here halts
        · exact inductionHypothesis
            (fun other member => ended other (List.mem_cons_of_mem _ member)) later

end Loops

end Attempt

/-! ## Lists of partial results -/

theorem mapM_eq_some_iff {Source : Type u} {Result : Type v} {f : Source → Option Result}
    {sources : List Source} {results : List Result} :
    sources.mapM f = some results ↔ sources.map f = results.map some := by
  induction sources generalizing results with
  | nil =>
      rw [List.mapM_nil, List.map_nil]
      cases results with
      | nil => exact iff_of_true rfl rfl
      | cons result rest =>
          refine iff_of_false ?_ ?_
          · intro impossible
            cases impossible
          · intro impossible
            cases impossible
  | cons source sources inductionHypothesis =>
      rw [List.mapM_cons, List.map_cons]
      constructor
      · intro collected
        rcases Option.bind_eq_some_iff.mp collected with ⟨result, first, rest⟩
        rcases Option.bind_eq_some_iff.mp rest with ⟨later, others, same⟩
        cases same
        rw [first, inductionHypothesis.mp others, List.map_cons]
      · intro mapped
        cases results with
        | nil => cases mapped
        | cons result rest =>
            rw [List.map_cons] at mapped
            injection mapped with first others
            rw [first, inductionHypothesis.mpr others]
            rfl

section Folds

variable {State : Type u} {Item : Type v} {step : State → Item → Option State}
  {invariant : State → Prop}

/-- What every step keeps holds at the end of a loop. -/
theorem foldlM_kept (kept : ∀ state item next, invariant state → step state item = some next →
    invariant next) {items : List Item} {state last : State} (start : invariant state)
    (ended : items.foldlM step state = some last) : invariant last := by
  induction items generalizing state with
  | nil =>
      cases ended
      exact start
  | cons item rest inductionHypothesis =>
      rw [List.foldlM_cons] at ended
      rcases Option.bind_eq_some_iff.mp ended with ⟨next, first, later⟩
      exact inductionHypothesis (kept state item next start first) later

/-- A loop comes to its end exactly when it can make a step for every item. -/
theorem foldlM_isSome_iff {good : Item → Prop}
    (each : ∀ state item, invariant state → ((step state item).isSome = true ↔ good item))
    (kept : ∀ state item next, invariant state → step state item = some next → invariant next)
    {items : List Item} {state : State} (start : invariant state) :
    (items.foldlM step state).isSome = true ↔ ∀ item ∈ items, good item := by
  induction items generalizing state with
  | nil => simp
  | cons item rest inductionHypothesis =>
      rw [List.foldlM_cons, List.forall_mem_cons, ← each state item start]
      cases first : step state item with
      | none => simp
      | some next => simpa using inductionHypothesis (kept state item next start first)

end Folds

end Foundation
end Ipbench
