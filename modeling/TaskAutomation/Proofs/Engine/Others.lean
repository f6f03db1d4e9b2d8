import TaskAutomation.Proofs.Engine.Running

/-!
This file is about programs that are not alone. Before each request of a program others may go first
and make any requests of their own. What others do between two requests is a program, and so is a
part of their work that is itself interrupted; a list of such programs is an interleaving.
-/

namespace TaskAutomation

section

variable {State : Type} (answer : (request : Request) → State → request.Reply × State)

/-- The state before a request, when others go first with the next of their programs. The parts of a
program that others interrupt are programs of their own. -/
def othersFirst : List (Program Unit) × State → State
  | ([], state) => state
  | (program :: _, state) => (program.run answer state).2

/-- Answers a request when others go first. -/
def answerAmid (request : Request) (state : List (Program Unit) × State) :
    request.Reply × (List (Program Unit) × State) :=
  ((answer request (othersFirst answer state)).1,
    (state.1.tail, (answer request (othersFirst answer state)).2))

/-- A state can be reached from another by requests. -/
inductive Reaches : State → State → Prop
  | here (state : State) : Reaches state state
  | later (request : Request) {state final : State}
      (rest : Reaches (answer request state).2 final) : Reaches state final

variable {answer}

theorem Reaches.trans {first second third : State} (former : Reaches answer first second)
    (latter : Reaches answer second third) : Reaches answer first third := by
  induction former with
  | here => exact latter
  | later request rest inductionHypothesis => exact .later request (inductionHypothesis latter)

theorem reaches_answer (request : Request) (state : State) :
    Reaches answer state (answer request state).2 := .later request (.here _)

theorem reaches_run {α : Type} (program : Program α) (state : State) :
    Reaches answer state (program.run answer state).2 := by
  induction program generalizing state with
  | pure a => exact .here state
  | call request next inductionHypothesis => exact .later request (inductionHypothesis _ _)
  | sleep delay next inductionHypothesis => exact inductionHypothesis state
  | hang => exact .here state
  | panic message => exact .here state

theorem reaches_othersFirst (state : List (Program Unit) × State) :
    Reaches answer state.2 (othersFirst answer state) := by
  obtain ⟨programs, state⟩ := state
  cases programs with
  | nil => exact .here state
  | cons program later => exact reaches_run program state

theorem reaches_answerAmid (request : Request) (state : List (Program Unit) × State) :
    Reaches answer state.2 (answerAmid answer request state).2.2 :=
  (reaches_othersFirst state).trans (reaches_answer request _)

theorem reaches_runAmid {α : Type} (program : Program α) (state : List (Program Unit) × State) :
    Reaches answer state.2 (program.run (answerAmid answer) state).2.2 := by
  induction program generalizing state with
  | pure a => exact .here state.2
  | call request next inductionHypothesis =>
    exact (reaches_answerAmid request state).trans (inductionHypothesis _ _)
  | sleep delay next inductionHypothesis => exact inductionHypothesis state
  | hang => exact .here state.2
  | panic message => exact .here state.2

end

/-! ### What a program asks for itself -/

namespace Program

variable {α β State : Type} {answer : (request : Request) → State → request.Reply × State}

/-- The requests that a program makes itself when others go first before each of them, in order and
each with the state in which it is answered. -/
def asksAmid (answer : (request : Request) → State → request.Reply × State) :
    Program α → List (Program Unit) × State → List (Request × State)
  | pure _, _ => []
  | call request next, state =>
    (request, othersFirst answer state) ::
      (next (answerAmid answer request state).1).asksAmid answer (answerAmid answer request state).2
  | sleep _ next, state => next.asksAmid answer state
  | hang, _ => []
  | panic _, _ => []

/-- A program that makes only requests of a kind makes none but these itself. -/
theorem Asks.of_mem_asksAmid {kind : Request → Prop} {program : Program α}
    {state : List (Program Unit) × State} (asks : program.Asks (answerAmid answer) kind state) :
    ∀ asked ∈ program.asksAmid answer state, kind asked.1 := by
  induction program generalizing state with
  | pure a => exact nofun
  | call request next inductionHypothesis =>
    exact List.forall_mem_cons.mpr ⟨asks.1, inductionHypothesis _ asks.2⟩
  | sleep delay next inductionHypothesis => exact inductionHypothesis asks
  | hang => exact nofun
  | panic message => exact nofun

theorem asksAmid_bind_of_run {program : Program α} {f : α → Program β}
    {state changed : List (Program Unit) × State} {a : α}
    (ran : program.run (answerAmid answer) state = (some a, changed)) :
    (program.bind f).asksAmid answer state =
      program.asksAmid answer state ++ (f a).asksAmid answer changed := by
  induction program generalizing state with
  | pure a =>
    cases ran
    rfl
  | call request next inductionHypothesis => exact congrArg (List.cons _) (inductionHypothesis _ ran)
  | sleep delay next inductionHypothesis => exact inductionHypothesis ran
  | hang => cases ran
  | panic message => cases ran

end Program

theorem Work.asksAmid_bind {Fault α β State : Type}
    {answer : (request : Request) → State → request.Reply × State} {work : Work Fault α}
    {f : α → Work Fault β} {state changed : List (Program Unit) × State} {a : α}
    (ran : work.run.run (answerAmid answer) state = (some (.ok a), changed)) :
    (work >>= f).run.asksAmid answer state =
      work.run.asksAmid answer state ++ (f a).run.asksAmid answer changed :=
  Program.asksAmid_bind_of_run (f := ExceptT.bindCont f) ran

end TaskAutomation
