import Mathlib.Data.List.Basic

namespace Ipbench
namespace Foundation

/-!
# Programs that call their environment

A program is a finite tree of calls: it continues with the answer of each call,
and either comes to a result or gives up.  A server answers the calls and has a
state of its own.

An observer follows the calls from outside.  It says which answers it counts on
and what each call with its answer means to it.  The weakest condition under
which a program ends well for an observer is computed along the tree; the rules
for sequences and loops make it unnecessary to look at the tree again.  What
holds for an observer holds of every run on a server that it describes.
-/

universe u v w s

inductive Program (Call : Type u) (Answer : Type v) (Result : Type w) where
  | done (result : Result)
  | giveUp
  | call (call : Call) (next : Answer → Program Call Answer Result)

namespace Program

variable {Call : Type u} {Answer : Type v} {Result Second : Type w}

/-- One call, whose answer is the result. -/
def ask (request : Call) : Program Call Answer Answer :=
  .call request .done

def andThen : Program Call Answer Result → (Result → Program Call Answer Second) →
    Program Call Answer Second
  | .done result, next => next result
  | .giveUp, _ => .giveUp
  | .call request rest, next => .call request fun answer => (rest answer).andThen next

instance : Monad (Program Call Answer) where
  pure := .done
  bind := andThen

/-- To give up unless a condition holds. -/
def require (condition : Prop) [Decidable condition] : Program Call Answer Unit :=
  if condition then .done () else .giveUp

/-- The body of a loop, for each item in turn. -/
def forEach {Item : Type} (body : Item → Program Call Answer Unit) :
    List Item → Program Call Answer Unit
  | [] => pure ()
  | item :: rest => do
      body item
      forEach body rest

/-! ## Runs -/

/-- How a run ends: its result, if it came to one, the state of the server and the calls with
their answers. -/
structure Ending (Call : Type u) (Answer : Type v) (Result : Type w) (Server : Type s) where
  result : Option Result
  server : Server
  trace : List (Call × Answer)

def run {Server : Type s} (answer : Server → Call → Answer × Server) :
    Program Call Answer Result → Server → Ending Call Answer Result Server
  | .done result, server => { result := some result, server := server, trace := [] }
  | .giveUp, server => { result := none, server := server, trace := [] }
  | .call request next, server =>
      let reply := answer server request
      let ended := run answer (next reply.1) reply.2
      { ended with trace := (request, reply.1) :: ended.trace }

end Program

/-! ## Observers -/

/-- What is counted on in an answer, and what a call with its answer means. -/
structure Observer (Call : Type u) (Answer : Type v) (State : Type s) where
  allows : State → Call → Answer → Prop
  next : State → Call → Answer → State

namespace Observer

variable {Call : Type u} {Answer : Type v} {Result Second : Type w} {State : Type s}
  (observer : Observer Call Answer State) (givenUp : State → Prop)

/-- What an observer makes of the calls of a run. -/
def along (state : State) (trace : List (Call × Answer)) : State :=
  trace.foldl (fun seen exchange => observer.next seen exchange.1 exchange.2) state

/-- The condition under which a program ends as stated, for every answer that is counted on. -/
def Ends (ended : Result → State → Prop) : Program Call Answer Result → State → Prop
  | .done result, state => ended result state
  | .giveUp, state => givenUp state
  | .call request next, state =>
      ∀ answer, observer.allows state request answer →
        Ends ended (next answer) (observer.next state request answer)

variable {observer givenUp}

theorem Ends.mono {first second : Result → State → Prop}
    (weaker : ∀ result state, first result state → second result state)
    {program : Program Call Answer Result} {state : State}
    (ends : observer.Ends givenUp first program state) :
    observer.Ends givenUp second program state := by
  induction program generalizing state with
  | done result => exact weaker result state ends
  | giveUp => exact ends
  | call request next inductionHypothesis =>
      intro answer allowed
      exact inductionHypothesis answer (ends answer allowed)

/-- A sequence ends as its second program does from where the first one ends. -/
theorem ends_bind {ended : Second → State → Prop} {program : Program Call Answer Result}
    {next : Result → Program Call Answer Second} {state : State} :
    observer.Ends givenUp ended (program >>= next) state ↔
      observer.Ends givenUp (fun result => observer.Ends givenUp ended (next result))
        program state := by
  induction program generalizing state with
  | done result => exact Iff.rfl
  | giveUp => exact Iff.rfl
  | call request rest inductionHypothesis =>
      exact forall_congr' fun answer => imp_congr_right fun _ => inductionHypothesis answer

theorem Ends.bind {middle : Result → State → Prop} {ended : Second → State → Prop}
    {program : Program Call Answer Result} {next : Result → Program Call Answer Second}
    {state : State} (first : observer.Ends givenUp middle program state)
    (later : ∀ result state, middle result state →
      observer.Ends givenUp ended (next result) state) :
    observer.Ends givenUp ended (program >>= next) state :=
  ends_bind.mpr (first.mono later)

theorem ends_pure {ended : Result → State → Prop} {result : Result} {state : State} :
    observer.Ends givenUp ended (pure result) state ↔ ended result state :=
  Iff.rfl

/-- After a call, for every answer that is counted on. -/
theorem ends_ask {Later : Type v} {ended : Later → State → Prop} {request : Call}
    {next : Answer → Program Call Answer Later} {state : State} :
    observer.Ends givenUp ended (Program.ask request >>= next) state ↔
      ∀ answer, observer.allows state request answer →
        observer.Ends givenUp ended (next answer) (observer.next state request answer) :=
  Iff.rfl

theorem ends_require {ended : Unit → State → Prop} {condition : Prop} [Decidable condition]
    {state : State} (holds : condition → ended () state)
    (fails : ¬condition → givenUp state) :
    observer.Ends givenUp ended (Program.require condition) state := by
  unfold Program.require
  split
  · next met => exact holds met
  · next unmet => exact fails unmet

/-- The rule for loops: an invariant of the number of turns that are over. -/
theorem ends_forEach {Item : Type} {body : Item → Program Call Answer Unit}
    (invariant : Nat → State → Prop) {items : List Item}
    (turn : ∀ count item, items[count]? = some item → ∀ state, invariant count state →
      observer.Ends givenUp (fun _ => invariant (count + 1)) (body item) state)
    {state : State} (start : invariant 0 state) :
    observer.Ends givenUp (fun _ => invariant items.length) (Program.forEach body items) state := by
  induction items generalizing state invariant with
  | nil => exact start
  | cons item rest inductionHypothesis =>
      refine (turn 0 item rfl state start).bind fun _ middle held => ?_
      exact inductionHypothesis (fun count => invariant (count + 1))
        (fun count other listed => turn (count + 1) other listed) held

/-- A server is as an observer counts on, as long as their states are related. -/
structure Describes {Server : Type s} (observer : Observer Call Answer State)
    (answer : Server → Call → Answer × Server) (related : Server → State → Prop) : Prop where
  allowed : ∀ server state, related server state → ∀ request,
    observer.allows state request (answer server request).1
  next : ∀ server state, related server state → ∀ request,
    related (answer server request).2 (observer.next state request (answer server request).1)

/-- An observer that counts on nothing describes every server. -/
theorem describes_every {Server : Type s} (observer : Observer Call Answer State)
    (answer : Server → Call → Answer × Server)
    (all : ∀ state request reply, observer.allows state request reply) :
    Describes observer answer fun _ _ => True where
  allowed := fun _ state _ request => all state request _
  next := fun _ _ _ _ => trivial

/-- What holds for an observer holds of a run on a server that it describes. -/
theorem Ends.run {Server : Type s} {answer : Server → Call → Answer × Server}
    {related : Server → State → Prop} (described : Describes observer answer related)
    {ended : Result → State → Prop} {program : Program Call Answer Result} (server : Server)
    {state : State} (start : related server state)
    (ends : observer.Ends givenUp ended program state) :
    (program.run answer server).result.elim (givenUp (observer.along state
        (program.run answer server).trace))
      fun result => ended result (observer.along state (program.run answer server).trace) := by
  induction program generalizing server state with
  | done result => exact ends
  | giveUp => exact ends
  | call request next inductionHypothesis =>
      exact inductionHypothesis _ _ (described.next server state start request)
        (ends _ (described.allowed server state start request))

-- From here on the rules above are the way to show how a program ends.
attribute [irreducible] Ends

end Observer

end Foundation
end Ipbench
