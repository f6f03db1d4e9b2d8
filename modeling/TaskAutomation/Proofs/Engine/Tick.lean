import TaskAutomation.Config.Document
import TaskAutomation.Proofs.Engine.CalledTriggers
import TaskAutomation.Proofs.Engine.Course
import TaskAutomation.Proofs.Engine.Underway
import TaskAutomation.Proofs.Schedule.Hours

/-!
This file follows one tick of the clock. A tick lists the triggers and then asks for a run of each
that is due, in the order of the list, and for nothing else. When every tick asks for the next one
at the next boundary, no hour is passed over if and only if the boundaries are at most an hour apart,
and in every hour in which there is a tick that does not break off, each trigger that is due then is
run or has been run already.
-/

namespace TaskAutomation

/-! ### The requests of a program -/

namespace Program

variable {α β State : Type} {answer : (request : Request) → State → request.Reply × State}

/-- The requests that a program makes when it is run from a state, in order. -/
def requests (answer : (request : Request) → State → request.Reply × State) :
    Program α → State → List Request
  | pure _, _ => []
  | call request next, state =>
    request :: (next (answer request state).1).requests answer (answer request state).2
  | sleep _ next, state => next.requests answer state
  | hang, _ => []
  | panic _, _ => []

theorem requests_bind_of_run {program : Program α} {f : α → Program β} {state changed : State}
    {a : α} (ran : program.run answer state = (some a, changed)) :
    (program.bind f).requests answer state =
      program.requests answer state ++ (f a).requests answer changed := by
  induction program generalizing state with
  | pure a =>
    cases ran
    rfl
  | call request next inductionHypothesis =>
    exact congrArg (List.cons request) (inductionHypothesis _ ran)
  | sleep delay next inductionHypothesis => exact inductionHypothesis ran
  | hang => cases ran
  | panic message => cases ran

end Program

theorem Work.requests_bind {Fault α β State : Type}
    {answer : (request : Request) → State → request.Reply × State} {work : Work Fault α}
    {f : α → Work Fault β} {state changed : State} {a : α}
    (ran : work.run.run answer state = (some (.ok a), changed)) :
    (work >>= f).run.requests answer state =
      work.run.requests answer state ++ (f a).run.requests answer changed :=
  Program.requests_bind_of_run (f := ExceptT.bindCont f) ran

/-! ### Seeing a fault of a store as a failure -/

namespace Work

variable {Fault Other α State : Type} {answer : (request : Request) → State → request.Reply × State}
  {change : Fault → Other} {work : Work Fault α} {state changed : State}

theorem run_mapFault {result : Except Fault α}
    (ran : work.run.run answer state = (some result, changed)) :
    (work.mapFault change).run.run answer state = (some (result.mapError change), changed) := by
  show (Program.bind work.run fun result => .pure (result.mapError change)).run answer state = _
  rw [Program.run_bind_of_run ran]
  rfl

theorem requests_mapFault {result : Except Fault α}
    (ran : work.run.run answer state = (some result, changed)) :
    (work.mapFault change).run.requests answer state = work.run.requests answer state := by
  show (Program.bind work.run fun result => .pure (result.mapError change)).requests answer state = _
  rw [Program.requests_bind_of_run ran]
  exact List.append_nil _

theorem prompt_mapFault (prompt : work.run.Prompt) : (work.mapFault change).run.Prompt :=
  prompt.bind fun _ => trivial

theorem asks_mapFault {kind : Request → Prop} (asks : work.run.Asks answer kind state) :
    (work.mapFault change).run.Asks answer kind state :=
  asks.bind fun _ _ => trivial

end Work

/-! ### One tick -/

/-- The request for a run of a trigger. -/
def RunSettings.runRequest (settings : RunSettings) (id : TriggerId) : Request :=
  .tasks (.push TaskKind.triggerRun.name (TriggerRun.encode ⟨id⟩) {
    topic := settings.topic
    priority := settings.priority
    collisionSign := some (TriggerRun.collisionSign ⟨id⟩) })

/-- No push is refused. -/
def AcceptsPushes {State : Type} (answer : (request : Request) → State → request.Reply × State) :
    Prop :=
  ∀ handler params options state, ∃ pushed,
    (answer (.tasks (.push handler params options)) state).1 = .ok pushed

section

variable {State : Type} {answer : (request : Request) → State → request.Reply × State}

theorem RunSettings.asks_pushRuns {kind : Request → Prop} (settings : RunSettings)
    {due : List Trigger} (pushes : ∀ trigger ∈ due, kind (settings.runRequest trigger.id))
    (state : State) : (settings.pushRuns due).run.Asks answer kind state := by
  induction due generalizing state with
  | nil => trivial
  | cons trigger rest inductionHypothesis =>
    refine Work.asks_bind ⟨pushes trigger List.mem_cons_self, trivial⟩ fun pushed state => ?_
    refine Work.asks_bind (inductionHypothesis (fun other member => ?_) state) fun _ _ => trivial
    exact pushes other (List.mem_cons_of_mem _ member)

/-- Runs are pushed one after the other without a wait. -/
theorem RunSettings.prompt_pushRuns (settings : RunSettings) (due : List Trigger) :
    (settings.pushRuns due).run.Prompt := by
  induction due with
  | nil => trivial
  | cons trigger rest inductionHypothesis =>
    exact Work.prompt_bind (fun _ => trivial) fun pushed =>
      Work.prompt_bind inductionHypothesis fun queued => trivial

/-- If no push is refused, a run is asked for each trigger, in order. -/
theorem RunSettings.run_pushRuns (accepts : AcceptsPushes answer) (settings : RunSettings)
    (due : List Trigger) (state : State) :
    (settings.pushRuns due).run.requests answer state =
        due.map (fun trigger => settings.runRequest trigger.id) ∧
      ∃ queued changed, (settings.pushRuns due).run.run answer state =
        (some (.ok queued), changed) := by
  induction due generalizing state with
  | nil => exact ⟨rfl, 0, state, rfl⟩
  | cons trigger rest inductionHypothesis =>
    obtain ⟨pushed, reply⟩ := accepts TaskKind.triggerRun.name (TriggerRun.encode ⟨trigger.id⟩) {
      topic := settings.topic
      priority := settings.priority
      collisionSign := some (TriggerRun.collisionSign ⟨trigger.id⟩) } state
    have ran : (settings.pushRun trigger.id).run.run answer state =
        (some (.ok pushed), (answer (settings.runRequest trigger.id) state).2) :=
      congrArg (fun reply => (some reply, _)) reply
    obtain ⟨requests, queued, changed, later⟩ :=
      inductionHypothesis (answer (settings.runRequest trigger.id) state).2
    refine ⟨?_, _, changed, (Work.run_bind ran).trans (Work.run_bind later)⟩
    refine (Work.requests_bind ran).trans (congrArg (List.cons _) ?_)
    exact (Work.requests_bind later).trans ((List.append_nil _).trans requests)

/-- Work that lists the triggers and pushes a run of each that is chosen. After that it breaks off,
unless the list tells all that has to be known. -/
def RunSettings.handOutRuns (settings : RunSettings) (choose : List Trigger → List Trigger)
    (tells : List Trigger → Bool) (conclude : Nat → Outcome) : Work Failure Outcome := do
  let triggers ← Work.needingStore (AutomateRequest.ask .listTriggers)
  let queued ← Work.needingStore (settings.pushRuns (choose triggers))
  if tells triggers then return conclude queued
  else Work.ofProgram (.panic TickSettings.beyondCalendar)

/-- A handler that does such work on its params. -/
def RunSettings.handingOut {Params : Type} (settings : RunSettings)
    (parse : Json → Except Invalid Params) (choose : Run Params → List Trigger → List Trigger)
    (tells : Run Params → List Trigger → Bool) (conclude : Run Params → Nat → Outcome) : Handler :=
  Handler.typed parse fun run => settings.handOutRuns (choose run) (tells run) (conclude run)

/-- Events hand out runs of the triggers that listen. -/
theorem RunSettings.eventHandler_eq_handingOut (settings : RunSettings) :
    settings.eventHandler = settings.handingOut ContractEvent.parse
      (fun run triggers => triggers.filter fun trigger => trigger.listensTo run.params.source)
      (fun _ _ => true) (fun run queued => (run.addInfo (queuedLine queued)).done) := rfl

/-- Such a handler asks for the list of triggers and for runs of those that it chooses. -/
theorem RunSettings.asks_handingOut {kind : Request → Prop} {Params : Type}
    {settings : RunSettings} {parse : Json → Except Invalid Params}
    {choose : Run Params → List Trigger → List Trigger} {tells : Run Params → List Trigger → Bool}
    {conclude : Run Params → Nat → Outcome} {task : Task} {now : Instant} {state : State}
    (lists : kind (.automate .listTriggers))
    (pushes : ∀ params, parse task.params = .ok params →
      ∀ triggers, (answer (.automate .listTriggers) state).1 = .ok triggers →
      ∀ trigger ∈ choose (Run.start task params now) triggers,
        kind (settings.runRequest trigger.id)) :
    (settings.handingOut parse choose tells conclude task now).Asks answer kind state := by
  unfold handingOut Handler.typed
  split
  · trivial
  · next params parsed =>
    refine ⟨lists, ?_⟩
    show Program.Asks answer kind (Program.bind (ExceptT.bindCont _
      ((answer (.automate .listTriggers) state).1.mapError StoreFault.failure)) _) _
    cases listed : (answer (.automate .listTriggers) state).1 with
    | error fault => trivial
    | ok triggers =>
      refine Program.Asks.bind (Work.asks_bind (Work.asks_mapFault
        (settings.asks_pushRuns (pushes params parsed triggers listed) _)) fun _ _ => ?_)
        fun result _ => ?_
      · split <;> trivial
      · cases result <;> trivial

namespace TickSettings

/-- The work of a tick. -/
def work (settings : TickSettings) (run : Run ScheduleTick) : Work Failure Outcome :=
  settings.runs.handOutRuns (settings.due run.now) (settings.tellsAll run.now) fun queued =>
    (run.addInfo (queuedLine queued)).later (nextBoundary run.now settings.interval)

variable {settings : TickSettings} {task : Task} {now : Instant} {state : State}

theorem handler_eq_typed (settings : TickSettings) :
    settings.handler = Handler.typed ScheduleTick.parse settings.work := rfl

/-- A tick asks for the list of triggers and for runs of those that are due. -/
theorem asks_handler {kind : Request → Prop} (lists : kind (.automate .listTriggers))
    (pushes : ∀ triggers, (answer (.automate .listTriggers) state).1 = .ok triggers →
      ∀ trigger ∈ settings.due now triggers, kind (settings.runs.runRequest trigger.id)) :
    (settings.handler task now).Asks answer kind state :=
  RunSettings.asks_handingOut lists fun _ _ => pushes

/-- If no push is refused, a tick that does not break off asks for the list of triggers and then for a
run of each that is due, in the order of the list, and for nothing else. It ends with the wish to be
run again at the next boundary. -/
theorem run_handler (accepts : AcceptsPushes answer)
    (parsed : ScheduleTick.parse task.params = .ok ⟨⟩) {triggers : List Trigger}
    (listed : (answer (.automate .listTriggers) state).1 = .ok triggers)
    (tells : settings.tellsAll now triggers = true) :
    (settings.handler task now).requests answer state =
        .automate .listTriggers :: (settings.due now triggers).map
          (fun trigger => settings.runs.runRequest trigger.id) ∧
      ∃ outcome changed, (settings.handler task now).run answer state = (some outcome, changed) ∧
        outcome.conclusion = .later (nextBoundary now settings.interval) := by
  have asked : (AutomateRequest.ask .listTriggers).run.run answer state =
      (some (.ok triggers), (answer (.automate .listTriggers) state).2) :=
    congrArg (fun reply => (some reply, _)) listed
  have first : (Work.needingStore (AutomateRequest.ask .listTriggers)).run.run answer state =
      (some (.ok triggers), (answer (.automate .listTriggers) state).2) := Work.run_mapFault asked
  obtain ⟨requests, queued, changed, pushed⟩ := settings.runs.run_pushRuns accepts
    (settings.due now triggers) (answer (.automate .listTriggers) state).2
  have second : (Work.needingStore (settings.runs.pushRuns (settings.due now triggers))).run.run
      answer _ = (some (.ok queued), changed) := Work.run_mapFault pushed
  have ran : (settings.work (Run.start task ⟨⟩ now)).run.run answer state = _ :=
    (Work.run_bind first).trans ((Work.run_bind second).trans
      (congrArg (Program.run answer · changed) (if_pos tells)))
  rw [handler_eq_typed, Handler.typed, parsed]
  refine ⟨?_, _, _, Program.run_bind_of_run ran, rfl⟩
  refine (Program.requests_bind_of_run ran).trans ((List.append_nil _).trans ?_)
  refine (Work.requests_bind first).trans (congrArg (List.cons _) ?_)
  refine (Work.requests_bind second).trans ?_
  show _ ++ (if settings.tellsAll now triggers then _ else _ : Work Failure Outcome).run.requests
    answer changed = _
  rw [if_pos tells]
  exact (List.append_nil _).trans ((Work.requests_mapFault pushed).trans requests)

end TickSettings

end

/-! ### Hours and ticks -/

/-- A tick at a time takes an hour of universal time into account: as long as no trigger leaves the
calendar, it asks for a further tick, and for every trigger whose schedule fits the hour, a run is
asked for unless the trigger has been called in this hour already. -/
def TickSettings.TakesIntoAccount (settings : TickSettings) (now : Instant) (hour : Int) : Prop :=
  ∀ {State : Type} {answer : (request : Request) → State → request.Reply × State} {task : Task}
    {state : State} {triggers : List Trigger}, AcceptsPushes answer →
    ScheduleTick.parse task.params = .ok ⟨⟩ →
    (answer (.automate .listTriggers) state).1 = .ok triggers →
    (∀ trigger ∈ triggers, ¬ trigger.LeavesCalendar settings.zones now) →
    (∃ outcome changed, (settings.handler task now).run answer state = (some outcome, changed) ∧
      outcome.conclusion = .later (nextBoundary now settings.interval)) ∧
    ∀ trigger ∈ triggers, trigger.active = true → ∀ schedule,
      trigger.kind.template?.map (ScheduleTemplate.compileWith settings.zones) =
        some (.ok schedule) →
      schedule.zone.HasOffset 0 → schedule.matchesHour (.ofUtcHour hour) = true →
      settings.runs.runRequest trigger.id ∈ (settings.handler task now).requests answer state ∨
        ∃ last, trigger.lastCallAt = some last ∧ last.utcHour = hour

theorem TickSettings.takesIntoAccount (settings : TickSettings) (now : Instant) :
    settings.TakesIntoAccount now now.utcHour := by
  intro State answer task state triggers accepts parsed listed stays
  have tells : settings.tellsAll now triggers = true := tellsAll_iff.mpr stays
  obtain ⟨requests, ends⟩ := run_handler accepts parsed listed tells
  refine ⟨ends, fun trigger member active schedule compiled universal fits => ?_⟩
  rw [requests]
  obtain ⟨template, timed, compiled⟩ := Option.map_eq_some_iff.mp compiled
  rw [← Zone.localHour_of_utc universal] at fits
  by_cases called : ∃ last, trigger.lastCallAt = some last ∧
      schedule.zone.localHour last = schedule.zone.localHour now
  · obtain ⟨last, called, same⟩ := called
    rw [Zone.localHour_eq_iff universal, Int.add_zero, Int.add_zero] at same
    exact Or.inr ⟨last, called, same⟩
  · refine Or.inl (List.mem_cons_of_mem _ (List.mem_map.mpr ⟨trigger, ?_, rfl⟩))
    refine mem_due_iff.mpr ⟨(told_eq_self tells).symm ▸ member, active,
      TriggerKind.isTimeBased_of_template? timed, template, schedule, timed, compiled, fits, ?_⟩
    exact fun last held same => called ⟨last, held, same⟩

/-- Ticks that each ask for the next one at the next boundary take every hour of universal time into
account that lies between the first and the last of them. -/
def AutomateConfig.TakesEveryHourIntoAccount (config : AutomateConfig) (known : KnownZones)
    (runs : RunSettings) : Prop :=
  ∀ start n hour, Instant.inRange start.seconds = true → start.utcHour ≤ hour →
    hour ≤ (tickTime config.tickInterval start n).utcHour →
      ∃ i ≤ n, (tickTime config.tickInterval start i).utcHour = hour ∧
        TickSettings.TakesIntoAccount ⟨known, runs, config.tickInterval⟩
          (tickTime config.tickInterval start i) hour

/-- The ticks of a configuration take every hour into account if and only if they are set to be at
most an hour apart. -/
theorem AutomateConfig.takesEveryHourIntoAccount_iff (config : AutomateConfig) (known : KnownZones)
    (runs : RunSettings) :
    config.TakesEveryHourIntoAccount known runs ↔ config.tickIntervalSeconds ≤ 3600 := by
  rw [← config.stepSeconds_le_iff]
  constructor
  · intro takes
    refine Int.not_lt.mp fun long => ?_
    have next : tickTime config.tickInterval ⟨-secondsPerHour - 1, 0⟩ 1 = ⟨0, 0⟩ :=
      nextBoundary_of_long long
    obtain ⟨i, early, same, -⟩ := takes ⟨-secondsPerHour - 1, 0⟩ 1 (-1) (by decide) (by decide)
      (by rw [next]; decide)
    match i, early with
    | 0, _ => exact absurd (show Instant.utcHour ⟨-secondsPerHour - 1, 0⟩ = -1 from same) (by decide)
    | 1, _ =>
      rw [next] at same
      exact absurd same (by decide)
  · intro short start n hour present reached passed
    obtain ⟨i, early, same⟩ := exists_tickTime short present reached passed
    exact ⟨i, early, same, same ▸ TickSettings.takesIntoAccount _ _⟩

/-- A configuration with two hours from tick to tick is accepted, and it passes over every second
hour. -/
theorem AutomateConfig.passes_over_second_hours :
    ∃ config, Config.read "[automate]\ntick_interval_secs = 7200" = .ok config ∧
      ∀ known runs, ¬ config.automate.TakesEveryHourIntoAccount known runs := by
  have interval : (Config.read "[automate]\ntick_interval_secs = 7200").toOption.map
      (fun config => config.automate.tickInterval) = some ⟨7200000000000⟩ := by decide +kernel
  cases read : Config.read "[automate]\ntick_interval_secs = 7200" with
  | error fault =>
    rw [read] at interval
    cases interval
  | ok config =>
    rw [read] at interval
    refine ⟨config, rfl, fun known runs takes => ?_⟩
    have apart : config.automate.tickInterval = ⟨7200000000000⟩ := Option.some.inj interval
    unfold TakesEveryHourIntoAccount at takes
    rw [apart] at takes
    obtain ⟨i, early, same, -⟩ := takes ⟨0, 0⟩ 1 1 (by decide) (by decide) (by decide +kernel)
    match i, early with
    | 0, _ => exact absurd same (by decide)
    | 1, _ => exact absurd same (by decide +kernel)

end TaskAutomation
