import TaskAutomation.Proofs.Engine.Others
import TaskAutomation.Proofs.Engine.Tick

/-!
This file is about the moments of a run: the states in which a program, or one of the others that
interrupt it, makes a request. One request leads from each moment to the next, so whatever has come
about at some moment has come about between two of them.
-/

namespace TaskAutomation

section

variable {State : Type} {answer : (request : Request) → State → request.Reply × State}
  {kind : Request → Prop} {first middle final : State} {moments later : List State}

/-! ### From one moment to the next -/

/-- Requests of a kind lead from a state through others to a last one; each state but the last is a
moment at which a request is made. -/
inductive Through (answer : (request : Request) → State → request.Reply × State)
    (kind : Request → Prop) : State → List State → State → Prop
  | here (state : State) : Through answer kind state [] state
  | step {state : State} {moments : List State} {final : State} (request : Request)
      (fits : kind request) (rest : Through answer kind (answer request state).2 moments final) :
      Through answer kind state (state :: moments) final

theorem Through.append (former : Through answer kind first moments middle)
    (latter : Through answer kind middle later final) :
    Through answer kind first (moments ++ later) final := by
  induction former with
  | here => exact latter
  | step request fits rest inductionHypothesis =>
    exact .step request fits (inductionHypothesis latter)

/-- Every moment is reached through the ones before it, and the last state from it. -/
theorem Through.split {early : List State} (through : Through answer kind first moments final)
    (split : moments ++ [final] = early ++ middle :: later) :
    Through answer kind first early middle ∧ ∃ rest, Through answer kind middle rest final := by
  induction early generalizing first moments with
  | nil =>
    cases through with
    | here =>
      obtain ⟨rfl, -⟩ := List.cons.inj split
      exact ⟨.here _, [], .here _⟩
    | step request fits rest =>
      obtain ⟨rfl, -⟩ := List.cons.inj split
      exact ⟨.here _, _, .step request fits rest⟩
  | cons state early inductionHypothesis =>
    cases through with
    | here => exact absurd (List.cons.inj split).2.symm (List.append_ne_nil_of_right_ne_nil _ nofun)
    | step request fits rest =>
      obtain ⟨rfl, others⟩ := List.cons.inj split
      obtain ⟨former, latter⟩ := inductionHypothesis rest others
      exact ⟨.step request fits former, latter⟩

end

namespace Program

variable {α β State : Type} (answer : (request : Request) → State → request.Reply × State)

/-! ### The moments of a run -/

/-- The states in which a program makes its requests, in order. -/
def moments : Program α → State → List State
  | pure _, _ => []
  | call request next, state =>
    state :: (next (answer request state).1).moments (answer request state).2
  | sleep _ next, state => next.moments state
  | hang, _ => []
  | panic _, _ => []

/-- The moments of those that go first before a request. -/
def momentsFirst : List (Program Unit) × State → List State
  | ([], _) => []
  | (program :: _, state) => program.moments answer state

/-- The states in which a program or one of the others makes a request, in order. -/
def momentsAmid : Program α → List (Program Unit) × State → List State
  | pure _, _ => []
  | call request next, state =>
    momentsFirst answer state ++ othersFirst answer state ::
      (next (answerAmid answer request state).1).momentsAmid (answerAmid answer request state).2
  | sleep _ next, state => next.momentsAmid state
  | hang, _ => []
  | panic _, _ => []

variable {answer} {kind : Request → Prop}

theorem through_moments {program : Program α} {state : State}
    (asks : program.Asks answer kind state) :
    Through answer kind state (program.moments answer state) (program.run answer state).2 := by
  induction program generalizing state with
  | pure a => exact .here state
  | call request next inductionHypothesis =>
    exact .step request asks.1 (inductionHypothesis _ asks.2)
  | sleep delay next inductionHypothesis => exact inductionHypothesis asks
  | hang => exact .here state
  | panic message => exact .here state

theorem through_momentsFirst {state : List (Program Unit) × State}
    (others : ∀ program ∈ state.1, ∀ state, program.Asks answer kind state) :
    Through answer kind state.2 (momentsFirst answer state) (othersFirst answer state) := by
  obtain ⟨programs, state⟩ := state
  cases programs with
  | nil => exact .here state
  | cons program rest => exact through_moments (others program List.mem_cons_self state)

/-- One request leads from each moment of a run among others to the next. -/
theorem through_momentsAmid {program : Program α} {state : List (Program Unit) × State}
    (asks : program.Asks (answerAmid answer) kind state)
    (others : ∀ program ∈ state.1, ∀ state, program.Asks answer kind state) :
    Through answer kind state.2 (program.momentsAmid answer state)
      (program.run (answerAmid answer) state).2.2 := by
  induction program generalizing state with
  | pure a => exact .here state.2
  | call request next inductionHypothesis =>
    refine (through_momentsFirst others).append (.step request asks.1 ?_)
    refine inductionHypothesis _ asks.2 fun program member => others program ?_
    exact List.mem_of_mem_tail member
  | sleep delay next inductionHypothesis => exact inductionHypothesis asks others
  | hang => exact .here state.2
  | panic message => exact .here state.2

/-- The first moment of a run that is followed by anything is the state that the run starts from. -/
theorem exists_moments_append_eq (program : Program α) (state : State) (more : List State) :
    ∃ later, program.moments answer state ++ (program.run answer state).2 :: more =
      state :: later := by
  induction program generalizing state with
  | call request next inductionHypothesis => exact ⟨_, rfl⟩
  | sleep delay next inductionHypothesis => exact inductionHypothesis state
  | _ => exact ⟨more, rfl⟩

/-- The same for a run among others. -/
theorem exists_momentsAmid_append_eq (program : Program α) (state : List (Program Unit) × State) :
    ∃ later, program.momentsAmid answer state ++ [(program.run (answerAmid answer) state).2.2] =
      state.2 :: later := by
  induction program generalizing state with
  | call request next inductionHypothesis =>
    show ∃ later, (momentsFirst answer state ++ othersFirst answer state :: _) ++ _ = _
    rw [List.append_assoc]
    obtain ⟨programs, state⟩ := state
    cases programs with
    | nil => exact ⟨_, rfl⟩
    | cons program rest => exact program.exists_moments_append_eq state _
  | sleep delay next inductionHypothesis => exact inductionHypothesis state
  | _ => exact ⟨[], rfl⟩

theorem momentsAmid_bind_of_run {program : Program α} {f : α → Program β}
    {state changed : List (Program Unit) × State} {a : α}
    (ran : program.run (answerAmid answer) state = (some a, changed)) :
    (program.bind f).momentsAmid answer state =
      program.momentsAmid answer state ++ (f a).momentsAmid answer changed := by
  induction program generalizing state with
  | pure a =>
    cases ran
    rfl
  | call request next inductionHypothesis =>
    have rest := @inductionHypothesis (answerAmid answer request state).1
      (answerAmid answer request state).2 ran
    refine (congrArg (fun rest => momentsFirst answer state ++ othersFirst answer state :: rest)
      rest).trans ?_
    exact (List.append_assoc _ (othersFirst answer state :: _) _).symm
  | sleep delay next inductionHypothesis => exact inductionHypothesis ran
  | hang => cases ran
  | panic message => cases ran

/-- Whoever has come to an end behind another program has the value of that one. -/
theorem of_run_bind {answer : (request : Request) → State → request.Reply × State}
    {program : Program α} {f : α → Program β} {state final : State} {b : β}
    (ran : (program.bind f).run answer state = (some b, final)) :
    ∃ a changed, program.run answer state = (some a, changed) ∧
      (f a).run answer changed = (some b, final) := by
  rw [run_bind] at ran
  split at ran
  · next a changed former => exact ⟨a, changed, former, ran⟩
  · cases ran

end Program

namespace Work

variable {Fault Other α β State : Type}
  {answer : (request : Request) → State → request.Reply × State}

theorem of_run_bind {work : Work Fault α} {f : α → Work Fault β} {state final : State} {b : β}
    (ran : (work >>= f).run.run answer state = (some (.ok b), final)) :
    ∃ a changed, work.run.run answer state = (some (.ok a), changed) ∧
      (f a).run.run answer changed = (some (.ok b), final) := by
  obtain ⟨result, changed, former, latter⟩ :=
    Program.of_run_bind (f := ExceptT.bindCont f) ran
  cases result with
  | ok a => exact ⟨a, changed, former, latter⟩
  | error fault => cases latter

theorem of_run_mapFault {change : Fault → Other} {work : Work Fault α} {state final : State} {a : α}
    (ran : (work.mapFault change).run.run answer state = (some (.ok a), final)) :
    work.run.run answer state = (some (.ok a), final) := by
  obtain ⟨result, changed, former, latter⟩ :=
    Program.of_run_bind (f := fun result : Except Fault α => .pure (result.mapError change)) ran
  cases result with
  | ok value =>
    cases latter
    exact former
  | error fault => cases latter

theorem momentsAmid_bind {work : Work Fault α} {f : α → Work Fault β}
    {state changed : List (Program Unit) × State} {a : α}
    (ran : work.run.run (answerAmid answer) state = (some (.ok a), changed)) :
    (work >>= f).run.momentsAmid answer state =
      work.run.momentsAmid answer state ++ (f a).run.momentsAmid answer changed :=
  Program.momentsAmid_bind_of_run (f := ExceptT.bindCont f) ran

theorem momentsAmid_mapFault {change : Fault → Other} {work : Work Fault α}
    {state changed : List (Program Unit) × State} {result : Except Fault α}
    (ran : work.run.run (answerAmid answer) state = (some result, changed)) :
    (work.mapFault change).run.momentsAmid answer state = work.run.momentsAmid answer state := by
  show (Program.bind work.run fun result => .pure (result.mapError change)).momentsAmid answer _ = _
  rw [Program.momentsAmid_bind_of_run ran]
  exact List.append_nil _

end Work

/-! ### Pushes of runs -/

namespace RunSettings

variable {State : Type} {answer : (request : Request) → State → request.Reply × State}
  {state final : List (Program Unit) × State}

theorem momentsAmid_pushRun (settings : RunSettings) (id : TriggerId)
    (state : List (Program Unit) × State) :
    (settings.pushRun id).run.momentsAmid answer state =
      Program.momentsFirst answer state ++ [othersFirst answer state] := rfl

/-- Runs are pushed one after the other, each at a moment of its own: at this moment the run is asked
for, and the next state is the one behind the answer. -/
theorem exists_moment_of_pushRuns {settings : RunSettings} {triggers : List Trigger} {queued : Nat}
    (ran : (settings.pushRuns triggers).run.run (answerAmid answer) state =
      (some (.ok queued), final)) :
    ∀ trigger ∈ triggers, ∃ early before after late pushed,
      (settings.pushRuns triggers).run.momentsAmid answer state ++ [final.2] =
          early ++ before :: after :: late ∧
        answer (settings.runRequest trigger.id) before = (.ok pushed, after) := by
  induction triggers generalizing state final queued with
  | nil => exact nofun
  | cons trigger rest inductionHypothesis =>
    obtain ⟨pushed, changed, first, later⟩ := Work.of_run_bind ran
    obtain ⟨count, ended, second, last⟩ := Work.of_run_bind later
    obtain rfl : ended = final := congrArg Prod.snd last
    have parts : (settings.pushRuns (trigger :: rest)).run.momentsAmid answer state =
        Program.momentsFirst answer state ++ othersFirst answer state ::
          ((settings.pushRuns rest).run.momentsAmid answer changed ++ []) := by
      refine (Work.momentsAmid_bind first).trans ?_
      rw [momentsAmid_pushRun, List.append_assoc]
      exact congrArg _ (congrArg _ (Work.momentsAmid_bind second))
    rw [parts, List.append_nil, List.append_assoc, List.cons_append]
    intro other member
    obtain rfl | inside := List.mem_cons.mp member
    · have reply : (answer (settings.runRequest other.id) (othersFirst answer state)).1 =
          .ok pushed := Option.some.inj (congrArg Prod.fst first)
      have next : (answer (settings.runRequest other.id) (othersFirst answer state)).2 = changed.2 :=
        congrArg (fun ran => ran.2.2) first
      obtain ⟨late, onward⟩ :=
        @Program.exists_momentsAmid_append_eq _ _ answer (settings.pushRuns rest).run changed
      rw [second] at onward
      exact ⟨_, _, changed.2, late, pushed, congrArg _ (congrArg _ onward), Prod.ext reply next⟩
    · obtain ⟨early, before, after, late, pushed, split, reply⟩ :=
        inductionHypothesis second other inside
      refine ⟨Program.momentsFirst answer state ++ othersFirst answer state :: early, before, after,
        late, pushed, ?_, reply⟩
      rw [split, List.append_assoc]
      rfl

end RunSettings

end TaskAutomation
