import TaskAutomation.Engine.Dispatcher
import TaskAutomation.Proofs.Engine.Running

/-!
This file is about what can be seen of a program while it runs. A run is under way in every state
from which it still makes a request or still waits, so what holds in all these states holds for
whoever looks at the host in between. What every request of a kind keeps holds all along a run that
makes only requests of that kind, and a limit on a program or a program before it does not change
which requests it makes.
-/

namespace TaskAutomation

namespace Program

variable {α β State : Type} {answer : (request : Request) → State → request.Reply × State}
  {kind : Request → Prop}

/-- A state in which the run of a program from another state is still under way. -/
def Underway (answer : (request : Request) → State → request.Reply × State) :
    Program α → State → State → Prop
  | pure _, _, _ => False
  | call request next, state, moment =>
    moment = state ∨ (next (answer request state).1).Underway answer (answer request state).2 moment
  | sleep _ next, state, moment => moment = state ∨ next.Underway answer state moment
  | hang, state, moment => moment = state
  | panic _, _, _ => False

/-- One program after another is under way in the first or, once that has ended, in the second. -/
theorem Underway.of_bind {program : Program α} {f : α → Program β} {state moment : State}
    (underway : (program.bind f).Underway answer state moment) :
    program.Underway answer state moment ∨
      ∃ a changed, program.run answer state = (some a, changed) ∧
        (f a).Underway answer changed moment := by
  induction program generalizing state with
  | pure a => exact Or.inr ⟨a, state, rfl, underway⟩
  | call request next inductionHypothesis =>
    obtain here | later := underway
    · exact Or.inl (Or.inl here)
    · obtain before | behind := inductionHypothesis _ later
      · exact Or.inl (Or.inr before)
      · exact Or.inr behind
  | sleep delay next inductionHypothesis =>
    obtain here | later := underway
    · exact Or.inl (Or.inl here)
    · obtain before | behind := inductionHypothesis later
      · exact Or.inl (Or.inr before)
      · exact Or.inr behind
  | hang => exact Or.inl underway
  | panic message => exact absurd underway id

/-- What every request of a kind keeps holds all along a run that makes only such requests. -/
theorem Asks.underway {program : Program α} {state moment : State}
    (asks : program.Asks answer kind state) (invariant : State → Prop)
    (keeps : ∀ request state, kind request → invariant state →
      invariant (answer request state).2) (holds : invariant state)
    (underway : program.Underway answer state moment) : invariant moment := by
  induction program generalizing state with
  | pure a => exact absurd underway id
  | call request next inductionHypothesis =>
    obtain rfl | later := underway
    · exact holds
    · exact inductionHypothesis _ asks.2 (keeps request state asks.1 holds) later
  | sleep delay next inductionHypothesis =>
    obtain rfl | later := underway
    · exact holds
    · exact inductionHypothesis asks holds later
  | hang =>
    obtain rfl := underway
    exact holds
  | panic message => exact absurd underway id

theorem Asks.bind {program : Program α} {f : α → Program β} {state : State}
    (first : program.Asks answer kind state) (second : ∀ a state, (f a).Asks answer kind state) :
    (program.bind f).Asks answer kind state := by
  induction program generalizing state with
  | pure a => exact second a state
  | call request next inductionHypothesis =>
    exact ⟨first.1, inductionHypothesis _ first.2⟩
  | sleep delay next inductionHypothesis => exact inductionHypothesis first
  | hang => trivial
  | panic message => trivial

theorem Asks.within {program : Program α} {state : State}
    (asks : program.Asks answer kind state) (limit : Nat) :
    (program.within limit).Asks answer kind state := by
  induction program generalizing limit state with
  | pure a => trivial
  | call request next inductionHypothesis =>
    exact ⟨asks.1, inductionHypothesis _ asks.2 limit⟩
  | sleep delay next inductionHypothesis =>
    unfold Program.within
    split
    · exact inductionHypothesis asks _
    · trivial
  | hang => trivial
  | panic message => trivial

end Program

namespace Work

variable {Fault α β State : Type} {answer : (request : Request) → State → request.Reply × State}
  {kind : Request → Prop}

/-- Work after other work makes only requests of a kind if both do. -/
theorem asks_bind {work : Work Fault α} {f : α → Work Fault β} {state : State}
    (first : work.run.Asks answer kind state)
    (second : ∀ a state, (f a).run.Asks answer kind state) :
    (work >>= f).run.Asks answer kind state :=
  Program.Asks.bind (f := ExceptT.bindCont f) first fun result state =>
    match result with
    | .ok a => second a state
    | .error _ => trivial

/-- Work that cannot fail makes the requests of the program it is made of. -/
theorem asks_ofProgram {program : Program α} {state : State}
    (asks : program.Asks answer kind state) :
    (ofProgram program : Work Fault α).run.Asks answer kind state :=
  Program.Asks.bind (f := fun a => .pure (Except.ok a)) asks fun _ _ => trivial

/-- Work after other work is under way in the first or, once that has given a value, in the
second. -/
theorem underway_of_bind {work : Work Fault α} {f : α → Work Fault β} {state moment : State}
    (underway : (work >>= f).run.Underway answer state moment) :
    work.run.Underway answer state moment ∨
      ∃ a changed, work.run.run answer state = (some (.ok a), changed) ∧
        (f a).run.Underway answer changed moment := by
  obtain before | ⟨result, changed, ran, behind⟩ :=
    Program.Underway.of_bind (f := ExceptT.bindCont f) underway
  · exact Or.inl before
  · cases result with
    | ok a => exact Or.inr ⟨a, changed, ran, behind⟩
    | error fault => exact absurd behind id

theorem underway_ofProgram {program : Program α} {state moment : State}
    (underway : (ofProgram program : Work Fault α).run.Underway answer state moment) :
    program.Underway answer state moment := by
  obtain before | ⟨a, changed, -, behind⟩ :=
    Program.Underway.of_bind (f := fun a => .pure (Except.ok a)) underway
  · exact before
  · exact absurd behind id

end Work

end TaskAutomation
