import TaskAutomation.Engine.Dispatcher
import TaskAutomation.Proofs.Engine.Running
import TaskAutomation.Proofs.Task.Decision

/-!
This file follows the run of a task. The run takes one of a few courses: there is no handler for the
task, its params are refused, the handler ends with an outcome, fails, breaks off or takes too long.
Every run takes a course, and the dispatcher gives the outcome of the course. What the course leads
to is then said in terms of the course alone.
-/

namespace TaskAutomation

/-! ### Work that may fail -/

namespace Work

variable {Fault α β State : Type} {answer : (request : Request) → State → request.Reply × State}
  {state changed : State} {a : α}

/-- Work goes on with the value of the work before it. -/
theorem run_bind {work : Work Fault α} {f : α → Work Fault β}
    (ran : work.run.run answer state = (some (.ok a), changed)) :
    (work >>= f).run.run answer state = (f a).run.run answer changed :=
  Program.run_bind_of_run (f := ExceptT.bindCont f) ran

/-- Work that fails is the end of the work. -/
theorem run_bind_error {work : Work Fault α} {fault : Fault} (f : α → Work Fault β)
    (ran : work.run.run answer state = (some (.error fault), changed)) :
    (work >>= f).run.run answer state = (some (.error fault), changed) :=
  Program.run_bind_of_run (f := ExceptT.bindCont f) ran

/-- Nothing comes after work that never ends. -/
theorem run_bind_unended {work : Work Fault α} (f : α → Work Fault β)
    (ran : work.run.run answer state = (none, changed)) :
    (work >>= f).run.run answer state = (none, changed) := by
  show (Program.bind work.run (ExceptT.bindCont f)).run answer state = _
  rw [Program.run_bind, ran]

/-- A limit does not concern work that comes first and never waits. -/
theorem run_within_bind {work : Work Fault α} {f : α → Work Fault β} (prompt : work.run.Prompt)
    (ran : work.run.run answer state = (some (.ok a), changed)) (limit : Nat) :
    (Program.within limit (work >>= f).run).run answer state =
      (Program.within limit (f a).run).run answer changed :=
  prompt.run_within_bind (f := ExceptT.bindCont f) ran limit

theorem prompt_bind {work : Work Fault α} {f : α → Work Fault β} (first : work.run.Prompt)
    (second : ∀ a, (f a).run.Prompt) : (work >>= f).run.Prompt :=
  Program.Prompt.bind (f := ExceptT.bindCont f) first fun result =>
    match result with
    | .ok a => second a
    | .error _ => trivial

theorem run_ofProgram {program : Program α} (ran : program.run answer state = (some a, changed)) :
    (ofProgram program : Work Fault α).run.run answer state = (some (.ok a), changed) :=
  Program.run_bind_of_run (f := fun a => .pure (Except.ok a)) ran

theorem run_ofProgram_unended {program : Program α}
    (ran : program.run answer state = (none, changed)) :
    (ofProgram program : Work Fault α).run.run answer state = (none, changed) := by
  show (Program.bind program fun a => .pure (Except.ok a)).run answer state = _
  rw [Program.run_bind, ran]

theorem run_time (state : State) :
    (Request.time : Work Fault Instant).run.run answer state =
      (some (.ok (answer .now state).1), (answer .now state).2) := rfl

end Work

theorem Registry.mem_of_find? {Kind Handler : Type} [BEq Kind] [LawfulBEq Kind]
    {registry : Registry Kind Handler} {kind : Kind} {handler : Handler}
    (found : registry.find? kind = some handler) : (kind, handler) ∈ registry.entries := by
  obtain ⟨former, later, split, -⟩ := List.lookup_eq_some_iff.mp found
  rw [split]
  exact List.mem_append_right _ List.mem_cons_self

/-! ### Typed handlers -/

/-- A handler that reads the params of its tasks before it works on them. -/
structure TypedHandler where
  Params : Type
  parse : Json → Except Invalid Params
  work : Run Params → Work Failure Outcome

def TypedHandler.handler (typed : TypedHandler) : Handler := Handler.typed typed.parse typed.work

namespace TaskRegistry

/-- The registry of some handlers. -/
def ofTyped (handlers : List (TaskKind × TypedHandler)) : TaskRegistry :=
  ⟨handlers.map fun entry => (entry.1, entry.2.handler)⟩

/-- The handler for the tasks that hold a name. -/
def typed? (handlers : List (TaskKind × TypedHandler)) (name : String) : Option TypedHandler :=
  (TaskKind.ofName? name).bind fun kind => handlers.lookup kind

variable {handlers : List (TaskKind × TypedHandler)} {name : String} {typed : TypedHandler}

theorem find?_ofTyped (handlers : List (TaskKind × TypedHandler)) (kind : TaskKind) :
    (ofTyped handlers).find? kind = (handlers.lookup kind).map TypedHandler.handler := by
  induction handlers with
  | nil => rfl
  | cons entry rest inductionHypothesis =>
    show List.lookup kind ((entry.1, entry.2.handler) :: _) = _
    rw [List.lookup_cons, List.lookup_cons]
    split
    · rfl
    · exact inductionHypothesis

theorem resolveName_of_unknown (unknown : typed? handlers name = none) :
    (ofTyped handlers).resolveName name = .error (.notFound name) := by
  unfold typed? at unknown
  unfold resolveName
  cases named : TaskKind.ofName? name with
  | none => rfl
  | some kind =>
    rw [named] at unknown
    simp only [Option.bind_some, find?_ofTyped] at unknown ⊢
    rw [unknown]
    rfl

theorem resolveName_of_known (known : typed? handlers name = some typed) :
    ∃ kind, (ofTyped handlers).resolveName name = .ok (kind, typed.handler) := by
  unfold typed? at known
  unfold resolveName
  cases named : TaskKind.ofName? name with
  | none =>
    rw [named] at known
    cases known
  | some kind =>
    rw [named] at known
    simp only [Option.bind_some, find?_ofTyped] at known ⊢
    rw [known]
    exact ⟨kind, rfl⟩

end TaskRegistry

/-! ### The courses of a run -/

/-- How the run of a task went. -/
inductive RunCourse where
  /-- There is no handler for the name that the task holds. -/
  | unhandled
  /-- The handler refused the params. -/
  | refused (invalid : Invalid)
  /-- The handler ended with an outcome. -/
  | ended (outcome : Outcome)
  /-- The handler failed and lost what it had gathered. -/
  | failed (failure : Failure)
  | panicked (message : String)
  | timedOut

namespace RunCourse

/-- The course of a run whose handler worked. -/
def ofEnding : Program.Ending (Except Failure Outcome) → RunCourse
  | .finished (.ok outcome) => ended outcome
  | .finished (.error failure) => failed failure
  | .panicked message => panicked message
  | .timedOut => timedOut

/-- The courses that the run of a task can take from a state, and the states they lead to. -/
inductive Takes {State : Type} (answer : (request : Request) → State → request.Reply × State)
    (handlers : List (TaskKind × TypedHandler)) (limit : Delay) (task : Task) (now : Instant)
    (state : State) : RunCourse → State → Prop
  | unhandled (unknown : TaskRegistry.typed? handlers task.handler = none) :
      Takes answer handlers limit task now state .unhandled state
  /-- With a limit of no length the handler does not start. -/
  | unstarted (typed : TypedHandler)
      (known : TaskRegistry.typed? handlers task.handler = some typed) (none : limit.nanos = 0) :
      Takes answer handlers limit task now state .timedOut state
  | refused (typed : TypedHandler)
      (known : TaskRegistry.typed? handlers task.handler = some typed) (some : limit.nanos ≠ 0)
      (invalid : Invalid) (read : typed.parse task.params = .error invalid) :
      Takes answer handlers limit task now state (.refused invalid) state
  | worked (typed : TypedHandler)
      (known : TaskRegistry.typed? handlers task.handler = some typed) (some : limit.nanos ≠ 0)
      (params : typed.Params) (read : typed.parse task.params = .ok params)
      (ending : Program.Ending (Except Failure Outcome)) (changed : State)
      (ran : (Program.within limit.nanos (typed.work (Run.start task params now)).run).run answer
        state = (Option.some ending, changed)) :
      Takes answer handlers limit task now state (ofEnding ending) changed

/-- The outcome of a run of a task that holds a name. -/
def outcome (limit : Delay) (name : String) : RunCourse → Outcome
  | unhandled => .failed (.permanent (RegistryFault.notFound name).message)
  | refused invalid => .failed invalid.failure
  | ended outcome => outcome
  | failed failure => .failed failure
  | panicked message => .failed (Dispatcher.panicFailure message)
  | timedOut => .failed (Dispatcher.timeoutFailure limit)

variable {State : Type} {answer : (request : Request) → State → request.Reply × State}
  {handlers : List (TaskKind × TypedHandler)} {limit : Delay} {task : Task} {now : Instant}
  {state changed : State} {course : RunCourse}

/-- Every run takes a course. -/
theorem exists_takes (answer : (request : Request) → State → request.Reply × State)
    (handlers : List (TaskKind × TypedHandler)) (limit : Delay) (task : Task) (now : Instant)
    (state : State) : ∃ course changed, Takes answer handlers limit task now state course changed := by
  cases known : TaskRegistry.typed? handlers task.handler with
  | none => exact ⟨_, _, .unhandled known⟩
  | some typed =>
    by_cases length : limit.nanos = 0
    · exact ⟨_, _, .unstarted typed known length⟩
    · cases read : typed.parse task.params with
      | error invalid => exact ⟨_, _, .refused typed known length invalid read⟩
      | ok params =>
        obtain ⟨ending, ran⟩ := Program.run_within answer limit.nanos
          (typed.work (Run.start task params now)).run state
        exact ⟨_, _, .worked typed known length params read ending _ ran⟩

/-- The outcome that a handler's work comes to. -/
def ofResult : Except Failure Outcome → Outcome
  | .ok outcome => outcome
  | .error failure => .failed failure

theorem handler_eq {typed : TypedHandler} {params : typed.Params}
    (read : typed.parse task.params = .ok params) :
    typed.handler task now =
      (typed.work (Run.start task params now)).run.bind fun result => .pure (ofResult result) := by
  unfold TypedHandler.handler Handler.typed
  rw [read]
  refine congrArg (Program.bind (typed.work (Run.start task params now)).run)
    (funext fun result => ?_)
  cases result <;> rfl

theorem handler_of_error {typed : TypedHandler} {invalid : Invalid}
    (read : typed.parse task.params = .error invalid) :
    typed.handler task now = .pure (.failed invalid.failure) := by
  unfold TypedHandler.handler Handler.typed
  rw [read]

theorem outcome_ofEnding (limit : Delay) (name : String)
    (ending : Program.Ending (Except Failure Outcome)) :
    (ofEnding ending).outcome limit name = Dispatcher.outcomeOf limit (ending.map ofResult) := by
  cases ending with
  | finished result => cases result <;> rfl
  | panicked message => rfl
  | timedOut => rfl

/-- The dispatcher gives the outcome of the course that the run takes. -/
theorem Takes.run_outcome {dispatcher : Dispatcher}
    (registry : dispatcher.registry = TaskRegistry.ofTyped handlers)
    (takes : Takes answer handlers dispatcher.handlerTimeout task now state course changed) :
    (dispatcher.outcome task now).run answer state =
      (some (course.outcome dispatcher.handlerTimeout task.handler), changed) := by
  unfold Dispatcher.outcome
  rw [registry]
  cases takes with
  | unhandled unknown => rw [TaskRegistry.resolveName_of_unknown unknown]; rfl
  | unstarted typed known none =>
    obtain ⟨kind, resolved⟩ := TaskRegistry.resolveName_of_known known
    rw [resolved]
    show (if _ then _ else _ : Program Outcome).run answer state = _
    rw [if_pos none]
    rfl
  | refused typed known length invalid read =>
    obtain ⟨kind, resolved⟩ := TaskRegistry.resolveName_of_known known
    rw [resolved]
    show (if _ then _ else _ : Program Outcome).run answer state = _
    rw [if_neg length, handler_of_error read]
    rfl
  | worked typed known length params read ending changed ran =>
    obtain ⟨kind, resolved⟩ := TaskRegistry.resolveName_of_known known
    rw [resolved]
    show (if _ then _ else _ : Program Outcome).run answer state = _
    -- The limit is on the work alone; what is made of its result takes no time.
    rw [if_neg length, handler_eq read, Program.within_bind_pure, Program.bind_assoc,
      Program.run_bind_of_run ran, outcome_ofEnding]
    rfl

/-- The work on a task from a state makes no request to the task queue. -/
def SparesQueue (answer : (request : Request) → State → request.Reply × State)
    (handlers : List (TaskKind × TypedHandler)) (limit : Delay) (task : Task) (now : Instant)
    (state : State) : Prop :=
  ∀ typed params, TaskRegistry.typed? handlers task.handler = some typed →
    typed.parse task.params = .ok params →
      (Program.within limit.nanos (typed.work (Run.start task params now)).run).Asks answer
        Request.SparesQueue state

/-- A run leaves the task queue alone if the work of the handler does. -/
theorem Takes.spared {host : TaskHost State}
    (takes : Takes host.answer handlers limit task now state course changed)
    (spares : SparesQueue host.answer handlers limit task now state)
    (steady : host.Steady state) : host.Spared state changed := by
  cases takes with
  | unhandled | unstarted | refused => exact ⟨rfl, steady⟩
  | worked typed known length params read ending changed ran =>
    have spared := host.spared_perform (spares typed params known read) steady
    unfold TaskHost.perform at spared
    rw [ran] at spared
    exact spared

end RunCourse

/-! ### What a course leads to -/

namespace RunCourse

variable {decider : Decider} {held final : Task} {course : RunCourse} {finishedAt : Instant}

/-- The handler ended the run with a conclusion. -/
def Concludes (course : RunCourse) (conclusion : Conclusion) : Prop :=
  ∃ outcome, course = ended outcome ∧ outcome.conclusion = conclusion

/-- The work of the handler came to a failure of some kind. To break off or to take too long is
transient. -/
inductive Fails : RunCourse → FailureKind → Prop
  | concluded (outcome : Outcome) (failure : Failure)
      (concluded : outcome.conclusion = .error failure) : Fails (ended outcome) failure.kind
  | failed (failure : Failure) : Fails (failed failure) failure.kind
  | panicked (message : String) : Fails (panicked message) .transient
  | timedOut : Fails timedOut .transient

/-- The course is the end of a task that was claimed. -/
inductive IsFinal (decider : Decider) (held : Task) : RunCourse → Prop
  | unhandled : IsFinal decider held unhandled
  | refused (invalid : Invalid) : IsFinal decider held (refused invalid)
  | permanent (course : RunCourse) (fails : course.Fails .permanent) : IsFinal decider held course
  | exhausted (course : RunCourse) (kind : FailureKind) (fails : course.Fails kind)
      (retryable : kind ≠ .permanent) (watcher : held.watcher = false)
      (reached : decider.maxAttempts ≤ held.attempt) : IsFinal decider held course

/-- The params that the handler left to replace those of the task. -/
def replaced : RunCourse → Option Json
  | ended outcome => outcome.params
  | _ => none

/-- The lines of diagnostics that the handler left. -/
def gathered : RunCourse → List String
  | ended outcome => outcome.info
  | _ => []

/-- What a task that was claimed becomes by a run that took a course. -/
structure Leaves (decider : Decider) (held : Task) (course : RunCourse) (finishedAt : Instant)
    (final : Task) : Prop where
  released : final.status ≠ .process
  done : final.status = .done ↔ course.Concludes .done
  later : ∀ time, (final.status = .pending ∧ final.startAt = time ∧ final.attempt = 0) ↔
    course.Concludes (.later time)
  error : final.status = .error ↔ course.IsFinal decider held
  retried : ¬ course.Concludes .done → (∀ time, ¬ course.Concludes (.later time)) →
    ¬ course.IsFinal decider held →
      final.status = .pending ∧ final.attempt = held.attempt ∧
        (finishedAt ≤ final.startAt ∨ final.startAt = Instant.max)
  params : final.params = course.replaced.getD held.params
  /-- A line of why is added if the handler did not settle what becomes of the task. -/
  info : ∃ reasons, final.info = (course.gathered ++ reasons).foldl Task.appendLine held.info ∧
    (reasons = [] ↔ course.Concludes .done ∨ ∃ time, course.Concludes (.later time)) ∧
    reasons.length ≤ 1
  origin : held.SameOrigin final

theorem params_outcome (limit : Delay) (name : String) (course : RunCourse) :
    (course.outcome limit name).params = course.replaced := by
  cases course <;> rfl

theorem info_outcome (limit : Delay) (name : String) (course : RunCourse) :
    (course.outcome limit name).info = course.gathered := by
  cases course <;> rfl

theorem concludes_iff (limit : Delay) (name : String) (course : RunCourse)
    {conclusion : Conclusion} (good : ∀ failure, conclusion ≠ .error failure) :
    course.Concludes conclusion ↔ (course.outcome limit name).conclusion = conclusion := by
  cases course with
  | ended outcome =>
    refine ⟨?_, fun concluded => ⟨outcome, rfl, concluded⟩⟩
    rintro ⟨_, ⟨⟩, concluded⟩
    exact concluded
  | unhandled | refused | failed | panicked | timedOut =>
    refine iff_of_false ?_ fun concluded => good _ concluded.symm
    rintro ⟨_, ⟨⟩, _⟩

theorem concludes_done_iff (limit : Delay) (name : String) (course : RunCourse) :
    course.Concludes .done ↔ (course.outcome limit name).conclusion = .done :=
  concludes_iff limit name course nofun

theorem concludes_later_iff (limit : Delay) (name : String) (course : RunCourse) (time : Instant) :
    course.Concludes (.later time) ↔ (course.outcome limit name).conclusion = .later time :=
  concludes_iff limit name course nofun

theorem Fails.exists_conclusion {kind : FailureKind} (fails : course.Fails kind) (limit : Delay)
    (name : String) :
    ∃ failure, (course.outcome limit name).conclusion = .error failure ∧ failure.kind = kind := by
  cases fails with
  | concluded outcome failure concluded => exact ⟨failure, concluded, rfl⟩
  | failed | panicked | timedOut => exact ⟨_, rfl, rfl⟩

/-- An error that is not the work's own is a lack of a handler or a refusal of the params. -/
theorem fails_of_conclusion {limit : Delay} {name : String} {failure : Failure}
    (concluded : (course.outcome limit name).conclusion = .error failure) :
    course = unhandled ∨ (∃ invalid, course = refused invalid) ∨ course.Fails failure.kind := by
  cases course with
  | unhandled => exact Or.inl rfl
  | refused invalid => exact Or.inr (Or.inl ⟨invalid, rfl⟩)
  | ended outcome => exact Or.inr (Or.inr (.concluded outcome failure concluded))
  | failed own | panicked message | timedOut =>
    cases concluded
    exact Or.inr (Or.inr (by constructor))

theorem isFinal_iff (limit : Delay) :
    course.IsFinal decider held ↔ ∃ failure,
      (course.outcome limit held.handler).conclusion = .error failure ∧
        decider.GivesUp held failure := by
  constructor
  · intro final
    cases final with
    | unhandled | refused => exact ⟨_, rfl, Or.inl rfl⟩
    | permanent _ fails =>
      obtain ⟨failure, concluded, permanent⟩ := fails.exists_conclusion limit held.handler
      exact ⟨failure, concluded, Or.inl (by rw [permanent]; rfl)⟩
    | exhausted _ kind fails retryable watcher reached =>
      obtain ⟨failure, concluded, -⟩ := fails.exists_conclusion limit held.handler
      exact ⟨failure, concluded, Or.inr ⟨watcher, reached⟩⟩
  · rintro ⟨failure, concluded, givesUp⟩
    obtain rfl | ⟨invalid, rfl⟩ | fails := fails_of_conclusion concluded
    · exact .unhandled
    · exact .refused invalid
    · by_cases permanent : failure.kind = .permanent
      · exact .permanent course (permanent ▸ fails)
      · obtain final | ⟨watcher, reached⟩ := givesUp
        · refine absurd ?_ permanent
          cases kind : failure.kind <;> rw [kind] at final <;> first | rfl | cases final
        · exact .exhausted course failure.kind fails permanent watcher reached

theorem concludes_done_or_later_iff (limit : Delay) (name : String) (course : RunCourse) :
    (course.Concludes .done ∨ ∃ time, course.Concludes (.later time)) ↔
      ∀ failure, (course.outcome limit name).conclusion ≠ .error failure := by
  simp only [concludes_done_iff limit name, concludes_later_iff limit name]
  cases (course.outcome limit name).conclusion <;> simp

/-- The operation that writes the decision on a course back leaves the task as the course has it. -/
theorem leaves (decider : Decider) (limit : Delay) (course : RunCourse) (finishedAt : Instant)
    (attempted : held.attempt ≠ 0) {report : RunReport} {apply : Task → Task}
    (written : ((decider.decide held (course.outcome limit held.handler).conclusion
      finishedAt).operation (Dispatcher.report held (course.outcome limit held.handler)
        finishedAt)).settlement? = some (report, apply)) :
    Leaves decider held course finishedAt (apply (held.absorb report)) := by
  have decides := decider.decides held (course.outcome limit held.handler).conclusion finishedAt
  have settles := decides.settles rfl written
  have done := concludes_done_iff limit held.handler course
  have later := concludes_later_iff limit held.handler course
  have replaced : (Dispatcher.report held (course.outcome limit held.handler) finishedAt).params =
      course.replaced := params_outcome limit held.handler course
  have gathered : (Dispatcher.report held (course.outcome limit held.handler) finishedAt).info =
      course.gathered := info_outcome limit held.handler course
  have params := Decision.params_settled written held
  have info := Decision.info_settled written held
  rw [replaced] at params
  rw [gathered] at info
  refine ⟨QueueOperation.status_settlement_ne written held, settles.done_iff.trans done.symm,
    fun time => (settles.later_iff attempted time).trans (later time).symm,
    settles.error_iff.trans (isFinal_iff limit).symm, ?_, params,
    ⟨_, info, ?_, Decision.length_reasons_le _ _⟩,
    QueueOperation.sameOrigin_settlement written held⟩
  · intro unfinished elsewhere running
    cases concluded : (course.outcome limit held.handler).conclusion with
    | done => exact absurd (done.mpr concluded) unfinished
    | later time => exact absurd ((later time).mpr concluded) (elsewhere time)
    | error failure =>
      exact settles.of_not_giveUp concluded fun lost =>
        running ((isFinal_iff limit).mpr ⟨failure, concluded, lost⟩)
  · exact decides.reasons_eq_nil_iff.trans
      (concludes_done_or_later_iff limit held.handler course).symm

end RunCourse

end TaskAutomation
