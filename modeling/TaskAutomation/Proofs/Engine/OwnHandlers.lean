import TaskAutomation.Proofs.Engine.OwnSteps
import TaskAutomation.Proofs.Engine.Tally
import TaskAutomation.Proofs.Engine.Tick

/-!
This file says what the handlers of tasks ask for that an engine is put together with. They read and
write rules, queue tasks and ask for something outside, but none of them claims a task, reports on
one or takes one back: that is left to the dispatcher and the reaper.
-/

namespace TaskAutomation

section

variable {State : Type} {answer : (request : Request) → State → request.Reply × State}
  {kind : Request → Prop}

/-- A handler asks for what its work asks for. -/
theorem Handler.asks_typed {Params : Type} {parse : Json → Except Invalid Params}
    {work : Run Params → Work Failure Outcome}
    (asks : ∀ run state, (work run).run.Asks answer kind state) (task : Task) (now : Instant)
    (state : State) : (Handler.typed parse work task now).Asks answer kind state := by
  unfold Handler.typed
  split
  · trivial
  · refine (asks _ state).bind fun result _ => ?_
    cases result <;> trivial

/-- A run that is dispatched asks for what the run of its trigger asks for. -/
theorem TriggerRunner.asks_handler {runner : TriggerRunner} (steps : runner.StepsAsk answer kind)
    (store : ∀ own, kind (.automate own)) (time : kind .now) (fresh : kind (.fresh .call))
    (task : Task) (now : Instant) (state : State) :
    (runner.handler task now).Asks answer kind state := by
  refine Handler.asks_typed (fun run state => ?_) task now state
  have asks : (runner.run run.params.id).run.Asks answer kind state :=
    asks_run steps store time fresh state
  refine Work.asks_bind (Work.asks_mapFault asks) fun call _ => ?_
  cases call <;> trivial

/-- Events ask for the list of triggers and for runs of some of them. -/
theorem RunSettings.asks_eventHandler (settings : RunSettings)
    (lists : kind (.automate .listTriggers)) (pushes : ∀ id, kind (settings.runRequest id))
    (task : Task) (now : Instant) (state : State) :
    (settings.eventHandler task now).Asks answer kind state := by
  rw [settings.eventHandler_eq_handingOut]
  exact asks_handingOut lists fun _ _ _ _ trigger _ => pushes trigger.id

/-- A run of a transaction asks for something outside. -/
theorem TransactionRun.asks_handler (outside : ∀ own, kind (.outside own)) (poll : Span)
    (task : Task) (now : Instant) (state : State) :
    (handler poll task now).Asks answer kind state := by
  refine Handler.asks_typed (fun run state => ?_) task now state
  unfold work
  split
  · exact Work.asks_bind ⟨outside _, trivial⟩ fun _ _ => trivial
  · refine Work.asks_bind ⟨outside _, trivial⟩ fun verdict _ => ?_
    obtain _ | _ | _ := verdict <;> trivial

end

namespace Engine

variable {known : KnownZones} {config : Config} {conditions : List ConditionKind}
  {actions : List ActionKind} {engine : Engine}

/-- The dispatcher of an engine has the handlers for the kinds of tasks that there are. -/
theorem registry_of_assemble (assembled : assemble known config conditions actions = .ok engine) :
    engine.dispatcher.registry.entries = handlers known config.automate engine.runner := by
  obtain ⟨askers, -, assembled⟩ := bind_eq_ok.mp assembled
  obtain ⟨doers, -, assembled⟩ := bind_eq_ok.mp assembled
  obtain ⟨registry, complete, assembled⟩ := bind_eq_ok.mp assembled
  obtain ⟨whole, registered, complete⟩ := bind_eq_ok.mp complete
  cases assembled
  split at complete
  · cases complete
    exact Registry.entries_registerAll (mapError_eq_ok.mp registered)
  · cases complete

/-- The dispatcher of an engine is set up by the settings of its queue. -/
theorem dispatcher_of_assemble (assembled : assemble known config conditions actions = .ok engine) :
    engine.dispatcher = config.queue.dispatcher engine.dispatcher.registry := by
  obtain ⟨askers, -, assembled⟩ := bind_eq_ok.mp assembled
  obtain ⟨doers, -, assembled⟩ := bind_eq_ok.mp assembled
  obtain ⟨registry, -, assembled⟩ := bind_eq_ok.mp assembled
  cases assembled
  rfl

/-- The handlers of an engine that are not for transactions ask for the rules, for what steps ask for,
and for runs of triggers and transactions of contracts. -/
theorem others_ask (assembled : assemble known config conditions actions = .ok engine) {State : Type}
    {answer : (request : Request) → State → request.Reply × State} {allowed : Request → Prop}
    (store : ∀ own, allowed (.automate own)) (time : allowed .now) (fresh : allowed (.fresh .call))
    (outside : ∀ own : OutsideRequest, own.IsOfSteps → allowed (.outside own))
    (runs : ∀ id, allowed (config.automate.runs.runRequest id))
    (transactions : ∀ run : TransactionRun, run.txHash = none →
      allowed (run.pushRequest config.automate.topic)) :
    ∀ entry ∈ engine.dispatcher.registry.entries, entry.1 ≠ .transactionRun → ∀ task now state,
      (entry.2 task now).Asks answer allowed state := by
  have steps : engine.runner.StepsAsk answer allowed :=
    stepsAsk assembled time outside transactions
  intro entry member other task now state
  rw [registry_of_assemble assembled] at member
  simp only [handlers, List.mem_cons, List.not_mem_nil, or_false] at member
  obtain rfl | rfl | rfl | rfl := member
  · exact TriggerRunner.asks_handler steps store time fresh task now state
  · exact TickSettings.asks_handler (store _) fun _ _ trigger _ => runs trigger.id
  · exact RunSettings.asks_eventHandler _ (store _) runs task now state
  · exact absurd rfl other

/-- The handlers of an engine ask nothing of the queue but runs of triggers and transactions of
contracts. -/
theorem handlers_ask (assembled : assemble known config conditions actions = .ok engine) {State : Type}
    {answer : (request : Request) → State → request.Reply × State} {allowed : Request → Prop}
    (spares : ∀ request : Request, request.SparesQueue → allowed request)
    (runs : ∀ id, allowed (config.automate.runs.runRequest id))
    (transactions : ∀ run : TransactionRun, run.txHash = none →
      allowed (run.pushRequest config.automate.topic)) :
    ∀ entry ∈ engine.dispatcher.registry.entries, ∀ task now state,
      (entry.2 task now).Asks answer allowed state := by
  intro entry member task now state
  by_cases own : entry.1 = .transactionRun
  · rw [registry_of_assemble assembled] at member
    simp only [handlers, List.mem_cons, List.not_mem_nil, or_false] at member
    obtain rfl | rfl | rfl | rfl := member
    · cases own
    · cases own
    · cases own
    · exact TransactionRun.asks_handler (fun _ => spares _ nofun) _ task now state
  · exact others_ask assembled (fun _ => spares _ nofun) (spares _ nofun) (spares _ nofun)
      (fun _ _ => spares _ nofun) runs transactions entry member own task now state

/-- The handlers of an engine neither claim a task nor report on one nor take one back. -/
theorem leavesRuns (assembled : assemble known config conditions actions = .ok engine) {State : Type}
    (answer : (request : Request) → State → request.Reply × State) :
    engine.dispatcher.registry.LeavesRuns answer :=
  handlers_ask assembled .spares (fun _ => .push _ _ _) fun _ _ => .push _ _ _

end Engine

end TaskAutomation
