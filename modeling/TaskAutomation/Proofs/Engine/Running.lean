import TaskAutomation.Engine.World

/-!
This file is about running programs. A program that goes on with the value of another one runs after
it, and a program with a limit comes to an end whatever it does. What a program does to the world it
does through its requests, so what each request of a kind leaves alone is left alone by every run
that makes only requests of that kind. A host of a task queue is any way of answering requests in
which only those to the queue have an effect on it, and there a run that makes none of these leaves
the queue as it is. A world is such a host as long as no fault is planned for its queue.
-/

namespace TaskAutomation

namespace Program

variable {α β State : Type} {answer : (request : Request) → State → request.Reply × State}

/-! ### One program after another -/

theorem run_bind (program : Program α) (f : α → Program β) (state : State) :
    (program.bind f).run answer state =
      match program.run answer state with
      | (some a, state) => (f a).run answer state
      | (none, state) => (none, state) := by
  induction program generalizing state with
  | pure a => rfl
  | call request next inductionHypothesis => exact inductionHypothesis _ _
  | sleep delay next inductionHypothesis => exact inductionHypothesis _
  | hang => rfl
  | panic message => rfl

theorem run_bind_of_run {program : Program α} {f : α → Program β} {state changed : State} {a : α}
    (ran : program.run answer state = (some a, changed)) :
    (program.bind f).run answer state = (f a).run answer changed := by
  rw [run_bind, ran]

/-- What comes after a program and asks for nothing changes nothing. -/
theorem state_run_bind (program : Program α) {f : α → Program β}
    (silent : ∀ a state, ((f a).run answer state).2 = state) (state : State) :
    ((program.bind f).run answer state).2 = (program.run answer state).2 := by
  rw [run_bind]
  generalize program.run answer state = ran
  obtain ⟨value | a, changed⟩ := ran
  · rfl
  · exact silent a changed

/-- A program with a limit comes to an end. -/
theorem run_within (answer : (request : Request) → State → request.Reply × State) (limit : Nat)
    (program : Program α) (state : State) :
    ∃ ending, (program.within limit).run answer state =
      (some ending, ((program.within limit).run answer state).2) := by
  induction program generalizing limit state with
  | pure a => exact ⟨_, rfl⟩
  | call request next inductionHypothesis => exact inductionHypothesis _ _ _
  | sleep delay next inductionHypothesis =>
    unfold within
    split
    · exact inductionHypothesis _ _
    · exact ⟨_, rfl⟩
  | hang => exact ⟨_, rfl⟩
  | panic message => exact ⟨_, rfl⟩

/-- The end of a program in another form. -/
def Ending.map (f : α → β) : Ending α → Ending β
  | .finished a => .finished (f a)
  | .panicked message => .panicked message
  | .timedOut => .timedOut

/-- What is made of the value of a program is not counted against its limit. -/
theorem within_bind_pure (program : Program α) (f : α → β) (limit : Nat) :
    (program.bind fun a => .pure (f a)).within limit =
      (program.within limit).bind fun ending => .pure (ending.map f) := by
  induction program generalizing limit with
  | pure a => rfl
  | call request next inductionHypothesis =>
    exact congrArg (call request) (funext fun reply => inductionHypothesis reply limit)
  | sleep delay next inductionHypothesis =>
    simp only [bind, within]
    split
    · exact congrArg (sleep delay) (inductionHypothesis _)
    · rfl
  | hang => rfl
  | panic message => rfl

/-! ### Programs that never wait -/

/-- A program makes its requests one after the other without a wait, until it gives a value or breaks
off. -/
def Prompt : Program α → Prop
  | pure _ => True
  | call _ next => ∀ reply, (next reply).Prompt
  | sleep .. => False
  | hang => False
  | panic _ => True

theorem Prompt.bind {program : Program α} {f : α → Program β} (first : program.Prompt)
    (second : ∀ a, (f a).Prompt) : (program.bind f).Prompt := by
  induction program with
  | pure a => exact second a
  | call request next inductionHypothesis => exact fun reply => inductionHypothesis reply (first reply)
  | sleep delay next => exact first.elim
  | hang => exact first.elim
  | panic message => trivial

/-- A limit on the waits does not concern what comes before the first of them. -/
theorem Prompt.run_within_bind {program : Program α} {f : α → Program β} {state changed : State}
    {a : α} (prompt : program.Prompt) (ran : program.run answer state = (some a, changed))
    (limit : Nat) :
    ((program.bind f).within limit).run answer state = ((f a).within limit).run answer changed := by
  induction program generalizing state with
  | pure a =>
    cases ran
    rfl
  | call request next inductionHypothesis => exact inductionHypothesis _ (prompt _) ran
  | sleep delay next => exact prompt.elim
  | hang => exact prompt.elim
  | panic message => cases ran

/-- What would come after a program that breaks off does not come about. -/
theorem run_within_bind_of_panicked {program : Program α} (f : α → Program β) {state changed : State}
    {message : String} {limit : Nat}
    (broke : (program.within limit).run answer state = (some (.panicked message), changed)) :
    ((program.bind f).within limit).run answer state = (some (.panicked message), changed) := by
  induction program generalizing limit state with
  | pure a => cases broke
  | call request next inductionHypothesis => exact inductionHypothesis _ broke
  | sleep delay next inductionHypothesis =>
    simp only [bind, within] at broke ⊢
    split at broke
    · next short =>
      rw [if_pos short]
      exact inductionHypothesis broke
    · cases broke
  | hang => cases broke
  | panic text =>
    cases broke
    rfl

/-! ### Requests of a kind -/

/-- All requests that a program makes when it is run from a state are of a kind. -/
def Asks (answer : (request : Request) → State → request.Reply × State) (kind : Request → Prop) :
    Program α → State → Prop
  | pure _, _ => True
  | call request next, state =>
    kind request ∧ (next (answer request state).1).Asks answer kind (answer request state).2
  | sleep _ next, state => next.Asks answer kind state
  | hang, _ => True
  | panic _, _ => True

/-- What every request of a kind keeps is kept by a run that makes only such requests. -/
theorem Asks.run {kind : Request → Prop} {program : Program α} {state : State}
    (asks : program.Asks answer kind state) (invariant : State → Prop)
    (keeps : ∀ request state, kind request → invariant state →
      invariant (answer request state).2) (holds : invariant state) :
    invariant (program.run answer state).2 := by
  induction program generalizing state with
  | pure a => exact holds
  | call request next inductionHypothesis =>
    exact inductionHypothesis _ asks.2 (keeps request state asks.1 holds)
  | sleep delay next inductionHypothesis => exact inductionHypothesis asks holds
  | hang => exact holds
  | panic message => exact holds

end Program

/-! ### Hosts of a task queue -/

/-- The request is not one to the task queue. -/
def Request.SparesQueue (request : Request) : Prop := ∀ own, request ≠ .tasks own

/-- What an operation that needs neither a new identifier nor the time does to a queue. -/
def TaskRequest.onQueue? :
    (request : TaskRequest) → Option (Backend → Except StoreFault request.Result × Backend)
  | .claim topics now => some fun backend => backend.claim topics now
  | .complete report => some fun backend => backend.complete report
  | .fail report why => some fun backend => backend.fail report why
  | .reschedule report startAt => some fun backend => backend.reschedule report startAt
  | .purge before => some fun backend => ((.ok (backend.purge before).1), (backend.purge before).2)
  | .push .. | .reap _ => none

/-- Where programs reach a task queue. What they ask of the queue is done to it as long as no call
of it is about to fail, and no other request touches it. The time and everything else may be
answered in any way. -/
structure TaskHost (State : Type) where
  answer : (request : Request) → State → request.Reply × State
  queue : State → Backend
  /-- No call of the queue is about to fail. -/
  Steady : State → Prop
  serves : ∀ (request : TaskRequest) operate state, request.onQueue? = some operate →
    Steady state →
      (answer (.tasks request) state).1 = (operate (queue state)).1 ∧
        queue (answer (.tasks request) state).2 = (operate (queue state)).2 ∧
        Steady (answer (.tasks request) state).2
  spares : ∀ (request : Request) state, request.SparesQueue → Steady state →
    queue (answer request state).2 = queue state ∧ Steady (answer request state).2

namespace TaskHost

variable {State α : Type} (host : TaskHost State) {state : State}

/-- Runs a program, when nothing else goes on. -/
def perform (program : Program α) (state : State) : Option α × State :=
  program.run host.answer state

/-- From one state to another the queue is left as it is, and still no call of it is about to
fail. -/
structure Spared (before after : State) : Prop where
  same : host.queue after = host.queue before
  steady : host.Steady after

/-- A run that makes no request to the task queue leaves the queue as it is. -/
theorem spared_perform {program : Program α}
    (asks : program.Asks host.answer Request.SparesQueue state) (steady : host.Steady state) :
    host.Spared state (host.perform program state).2 := by
  refine asks.run (host.Spared state) (fun request changed spares kept => ?_) ⟨rfl, steady⟩
  obtain ⟨same, calm⟩ := host.spares request changed spares kept.steady
  exact ⟨same.trans kept.same, calm⟩

end TaskHost

namespace World

variable {State : Type}

/-- Two worlds have the same task queue and the same plan of faults for it. -/
structure SameQueue (before after : World State) : Prop where
  backend : after.backend = before.backend
  verdicts : ∀ request : TaskRequest,
    after.faults.verdicts request.gate = before.faults.verdicts request.gate

/-- No operation of the task queue is planned to fail. -/
def Faultless (world : World State) : Prop :=
  ∀ request : TaskRequest, world.faults.verdicts request.gate = []

theorem SameQueue.refl (world : World State) : SameQueue world world := ⟨rfl, fun _ => rfl⟩

theorem SameQueue.trans {first second third : World State} (former : SameQueue first second)
    (latter : SameQueue second third) : SameQueue first third :=
  ⟨latter.backend.trans former.backend, fun request =>
    (latter.verdicts request).trans (former.verdicts request)⟩

theorem SameQueue.faultless {before after : World State} (same : SameQueue before after)
    (faultless : before.Faultless) : after.Faultless :=
  fun request => (same.verdicts request).trans (faultless request)

/-- The verdict on a call is taken from the plan of its gate and of no other. -/
theorem verdicts_takeFault (world : World State) {gate other : StoreGate}
    (different : other ≠ gate) :
    (world.takeFault gate).2.faults.verdicts other = world.faults.verdicts other := by
  simp only [takeFault, FaultPlan.take]
  split
  · rfl
  · exact if_neg different

theorem gate_tasks_ne (request : TaskRequest) (other : AutomateRequest) :
    request.gate ≠ other.gate := by
  cases request <;> cases other <;> exact nofun

theorem sameQueue_takeFault (world : World State) (request : AutomateRequest) :
    SameQueue world (world.takeFault request.gate).2 :=
  ⟨rfl, fun own => world.verdicts_takeFault (gate_tasks_ne own request)⟩

theorem sameQueue_answerAutomate (world : World State) (request : AutomateRequest) :
    SameQueue world (world.answerAutomate request).2 := by
  cases request <;> exact ⟨rfl, fun _ => rfl⟩

variable [Outside State]

theorem sameQueue_answer {request : Request} (spares : request.SparesQueue)
    (world : World State) : SameQueue world (answer request world).2 := by
  cases request with
  | now => exact .refl world
  | elapse span => exact ⟨rfl, fun _ => rfl⟩
  | fresh kind => exact .refl world
  | tasks own => exact absurd rfl (spares own)
  | outside own => exact ⟨rfl, fun _ => rfl⟩
  | automate own =>
    have taken := world.sameQueue_takeFault own
    simp only [answer]
    split
    · next verdict =>
      rw [verdict] at taken
      exact taken
    · next verdict =>
      rw [verdict] at taken
      exact taken.trans (sameQueue_answerAutomate _ own)

/-- A request to the task queue goes through if no fault is planned for it. -/
theorem answer_tasks (request : TaskRequest) {world : World State}
    (free : world.faults.verdicts request.gate = []) :
    answer (.tasks request) world = world.answerTasks request := by
  simp only [answer, takeFault, FaultPlan.take, free]

/-- A world hosts its task queue. -/
def host : TaskHost (World State) where
  answer := answer
  queue := backend
  Steady := Faultless
  serves request operate world served faultless := by
    rw [answer_tasks request (faultless request)]
    cases request <;> cases served <;> exact ⟨rfl, rfl, faultless⟩
  spares request world spares faultless := by
    have same := sameQueue_answer spares world
    exact ⟨same.backend, same.faultless faultless⟩

end World

end TaskAutomation
