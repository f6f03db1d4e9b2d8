import TaskAutomation.Proofs.Automation.Params
import TaskAutomation.Proofs.Engine.OwnSteps
import TaskAutomation.Proofs.Engine.ServiceCalls

/-!
This file says when the rules in a store are well formed: its triggers were checked, its steps
belong to stored triggers and have handlers that take their params, and its history is that of
stored triggers. There is one lemma for every kind of write that keeps a store well formed, with
what has to be known of the record that is written. Deleting needs no knowledge at all, since with a
trigger goes everything that belongs to it.
-/

namespace TaskAutomation

/-! ### Handlers of steps -/

/-- A handler of steps that reads the params before it works on them. -/
structure TypedStep (α : Type) where
  Params : Type
  parse : Json → Except Invalid Params
  work : Params → Work Failure α

def TypedStep.handler {α : Type} (typed : TypedStep α) : StepHandler α :=
  .typed typed.parse typed.work

/-- The handlers of all steps, by kind, and the zones that schedules may name. -/
structure StepHandlers where
  zones : KnownZones
  conditions : List (ConditionKind × TypedStep Bool)
  actions : List (ActionKind × TypedStep Unit)

/-- The registry of some handlers. -/
def Registry.ofTyped {Kind α : Type} (handlers : List (Kind × TypedStep α)) :
    Registry Kind (StepHandler α) :=
  ⟨handlers.map fun entry => (entry.1, entry.2.handler)⟩

/-- The service that checks steps with the handlers. -/
def StepHandlers.service (handlers : StepHandlers) : AutomateService :=
  ⟨handlers.zones, .ofTyped handlers.conditions, .ofTyped handlers.actions⟩

/-- The runner that takes steps with the handlers. -/
def StepHandlers.runner (handlers : StepHandlers) (maxRetries : Nat) : TriggerRunner :=
  ⟨.ofTyped handlers.conditions, .ofTyped handlers.actions, maxRetries⟩

section

variable {Kind α : Type} [BEq Kind] {handlers : List (Kind × TypedStep α)}

theorem Registry.find?_ofTyped (handlers : List (Kind × TypedStep α)) (kind : Kind) :
    (ofTyped handlers).find? kind = (handlers.lookup kind).map TypedStep.handler := by
  induction handlers with
  | nil => rfl
  | cons entry rest inductionHypothesis =>
    show List.lookup kind ((entry.1, entry.2.handler) :: _) = _
    rw [List.lookup_cons, List.lookup_cons]
    split
    · rfl
    · exact inductionHypothesis

/-- There is a handler for a kind of step, and it takes the params. -/
def Takes (handlers : List (Kind × TypedStep α)) (kind : Kind) (params : Json) : Prop :=
  ∃ typed, handlers.lookup kind = some typed ∧ ∃ read, typed.parse params = .ok read

/-- The service finds out whether there is a handler that takes some params. -/
theorem takes_of_verifyStep {State : Type}
    {answer : (request : Request) → State → request.Reply × State} {name : Kind → String}
    {kind : Kind} {params : Json} {state changed : State}
    (ran : (AutomateService.verifyStep (.ofTyped handlers) name kind params).run.run answer state =
      (some (.ok ()), changed)) : Takes handlers kind params := by
  unfold AutomateService.verifyStep Registry.resolve at ran
  rw [Registry.find?_ofTyped] at ran
  cases known : handlers.lookup kind with
  | none =>
    rw [known] at ran
    cases ran
  | some typed =>
    rw [known] at ran
    cases read : typed.parse params with
    | ok value => exact ⟨typed, known, value, read⟩
    | error invalid =>
      have refused : typed.handler.verify params = .error invalid := by
        show (typed.parse params).map _ = _
        rw [read]
        rfl
      have verified : typed.handler.verify params = .ok () :=
        AutomateService.verified_of_requireValid ran
      cases verified.symm.trans refused

end

/-! ### The handlers of an engine -/

/-- A template that was checked compiles. -/
theorem ScheduleTemplate.compiles_of_verify {known : KnownZones} {template : ScheduleTemplate}
    (verified : template.verify known = .ok ()) :
    ∃ schedule, template.compileWith known = .ok schedule := by
  obtain ⟨schedule, compiled, -⟩ := map_eq_ok.mp verified
  exact ⟨schedule, compiled⟩

/-- The handler of a kind of condition, as one that reads its params first. -/
def ConditionKind.typedStep (known : KnownZones) : ConditionKind → TypedStep Bool
  | schedule => ⟨ScheduleTemplate, ScheduleTemplate.parse known, askSchedule known⟩
  | balance => ⟨BalanceParams, BalanceParams.parse, askBalance⟩
  | gasPrice => ⟨GasPriceParams, GasPriceParams.parse, askGasPrice⟩
  | contractMetric => ⟨MetricParams, MetricParams.parse, askMetric⟩

theorem ConditionKind.handler_typedStep (known : KnownZones) (kind : ConditionKind) :
    (kind.typedStep known).handler = kind.handler known := by
  cases kind <;> rfl

/-- The handler of a kind of action, as one that reads its params first. -/
def ActionKind.typedStep (topic : String) : ActionKind → TypedStep Unit
  | notification => ⟨NotificationParams, NotificationParams.parse, sendNotification⟩
  | automateRun => ⟨AutomateRunParams, AutomateRunParams.parse, queueTransaction topic⟩

theorem ActionKind.handler_typedStep (topic : String) (kind : ActionKind) :
    (kind.typedStep topic).handler = kind.handler topic := by
  cases kind <;> rfl

/-- The handlers that an engine has for some kinds of steps. -/
def StepHandlers.ofKinds (known : KnownZones) (topic : String) (conditions : List ConditionKind)
    (actions : List ActionKind) : StepHandlers where
  zones := known
  conditions := conditions.map fun kind => (kind, kind.typedStep known)
  actions := actions.map fun kind => (kind, kind.typedStep topic)

theorem Registry.ext_entries {Kind Handler : Type} {first second : Registry Kind Handler}
    (same : first.entries = second.entries) : first = second := by
  cases first
  exact congrArg Registry.mk same

section

variable (known : KnownZones) (topic : String) (conditions : List ConditionKind)
  (actions : List ActionKind)

theorem StepHandlers.entries_ofKinds :
    (Registry.ofTyped (ofKinds known topic conditions actions).conditions).entries =
        conditions.map (fun kind => (kind, kind.handler known)) ∧
      (Registry.ofTyped (ofKinds known topic conditions actions).actions).entries =
        actions.map fun kind => (kind, kind.handler topic) := by
  simp [ofKinds, Registry.ofTyped, ConditionKind.handler_typedStep, ActionKind.handler_typedStep]

/-- The service and the runner of an engine have these handlers. -/
theorem Engine.handlers_of_assemble {config : Config} {engine : Engine}
    (assembled : Engine.assemble known config conditions actions = .ok engine) :
    engine.service =
        (StepHandlers.ofKinds known config.automate.topic conditions actions).service ∧
      engine.runner =
        (StepHandlers.ofKinds known config.automate.topic conditions actions).runner
          config.automate.maxTriggerRetries := by
  obtain ⟨ofConditions, ofActions⟩ :=
    StepHandlers.entries_ofKinds known config.automate.topic conditions actions
  obtain ⟨askers, asked, assembled⟩ := bind_eq_ok.mp assembled
  obtain ⟨doers, done, assembled⟩ := bind_eq_ok.mp assembled
  obtain ⟨registry, -, assembled⟩ := bind_eq_ok.mp assembled
  obtain rfl := Registry.ext_entries
    ((Registry.entries_registerAll (mapError_eq_ok.mp asked)).trans ofConditions.symm)
  obtain rfl := Registry.ext_entries
    ((Registry.entries_registerAll (mapError_eq_ok.mp done)).trans ofActions.symm)
  cases assembled
  exact ⟨rfl, rfl⟩

end

/-! ### Well-formed stores -/

/-- There is a trigger with an identifier. -/
def AutomateStore.Has (store : AutomateStore) (id : TriggerId) : Prop :=
  ∃ trigger, store.trigger? id = some trigger

/-- The rules in a store are well formed. -/
structure WellFormed (handlers : StepHandlers) (store : AutomateStore) : Prop where
  triggers : ∀ trigger ∈ store.triggers,
    verifyTrigger handlers.zones trigger.name trigger.kind = .ok ()
  conditions : ∀ condition ∈ store.conditions, store.Has condition.trigger ∧
    Takes handlers.conditions condition.kind condition.params
  actions : ∀ action ∈ store.actions, store.Has action.trigger ∧
    Takes handlers.actions action.kind action.params
  history : ∀ call ∈ store.history, store.Has call.trigger

theorem Step.mem_upsert {record : IdKind} {Kind : Type} {steps : List (Step record Kind)}
    {step other : Step record Kind} (member : other ∈ upsert steps step) :
    other = step ∨ other ∈ steps := by
  unfold upsert at member
  split at member
  · obtain ⟨former, inside, rfl⟩ := List.mem_map.mp member
    split
    · exact Or.inl rfl
    · exact Or.inr inside
  · obtain before | new := List.mem_append.mp member
    · exact Or.inr before
    · exact Or.inl (List.mem_singleton.mp new)

namespace AutomateStore.Has

variable {store : AutomateStore} {id : TriggerId}

theorem saveTrigger (has : store.Has id) (trigger : Trigger) :
    (store.saveTrigger trigger).Has id := by
  by_cases own : id = trigger.id
  · exact ⟨trigger, own ▸ store.trigger?_saveTrigger_self trigger⟩
  · obtain ⟨held, found⟩ := has
    exact ⟨held, (store.trigger?_saveTrigger_of_ne trigger own).trans found⟩

theorem deleteTrigger (has : store.Has id) {other : TriggerId} (different : id ≠ other) :
    (store.deleteTrigger other).2.Has id := by
  obtain ⟨held, found⟩ := has
  exact ⟨held, (store.trigger?_deleteTrigger_of_ne different).trans found⟩

end AutomateStore.Has

namespace WellFormed

variable {handlers : StepHandlers} {store : AutomateStore}

theorem empty (handlers : StepHandlers) : WellFormed handlers .empty where
  triggers _ member := absurd member List.not_mem_nil
  conditions _ member := absurd member List.not_mem_nil
  actions _ member := absurd member List.not_mem_nil
  history _ member := absurd member List.not_mem_nil

theorem verified (sound : WellFormed handlers store) {id : TriggerId} {held : Trigger}
    (found : store.trigger? id = some held) :
    verifyTrigger handlers.zones held.name held.kind = .ok () :=
  sound.triggers held (List.mem_of_find?_eq_some found)

/-- A trigger is saved that was checked. -/
theorem saveTrigger (sound : WellFormed handlers store) {trigger : Trigger}
    (verified : verifyTrigger handlers.zones trigger.name trigger.kind = .ok ()) :
    WellFormed handlers (store.saveTrigger trigger) where
  triggers other member := by
    obtain rfl | before := AutomateStore.mem_insertTrigger trigger member
    · exact verified
    · exact sound.triggers other before
  conditions condition member :=
    (sound.conditions condition member).imp_left (·.saveTrigger trigger)
  actions action member := (sound.actions action member).imp_left (·.saveTrigger trigger)
  history call member := (sound.history call member).saveTrigger trigger

/-- With a trigger goes everything that belongs to it. -/
theorem deleteTrigger (sound : WellFormed handlers store) (id : TriggerId) :
    WellFormed handlers (store.deleteTrigger id).2 := by
  cases found : store.trigger? id with
  | none =>
    unfold AutomateStore.deleteTrigger
    rw [found]
    exact sound
  | some held =>
    have kept {trigger : TriggerId} (has : store.Has trigger) (other : trigger ≠ id) :=
      has.deleteTrigger other
    unfold AutomateStore.deleteTrigger at kept ⊢
    rw [found] at kept ⊢
    constructor
    · exact fun trigger member => sound.triggers trigger (List.mem_filter.mp member).1
    · intro condition member
      obtain ⟨inside, other⟩ := List.mem_filter.mp member
      exact (sound.conditions condition inside).imp_left (kept · (of_decide_eq_true other))
    · intro action member
      obtain ⟨inside, other⟩ := List.mem_filter.mp member
      exact (sound.actions action inside).imp_left (kept · (of_decide_eq_true other))
    · intro call member
      obtain ⟨inside, other⟩ := List.mem_filter.mp member
      exact kept (sound.history call inside) (of_decide_eq_true other)

/-- A condition of a stored trigger is saved that was checked. -/
theorem saveCondition (sound : WellFormed handlers store) {condition : Condition}
    (has : store.Has condition.trigger)
    (takes : Takes handlers.conditions condition.kind condition.params) :
    WellFormed handlers (store.saveCondition condition) where
  triggers := sound.triggers
  conditions other member := by
    obtain rfl | before := Step.mem_upsert member
    · exact ⟨has, takes⟩
    · exact sound.conditions other before
  actions := sound.actions
  history := sound.history

theorem deleteCondition (sound : WellFormed handlers store) (id : ConditionId) :
    WellFormed handlers (store.deleteCondition id).2 where
  triggers := sound.triggers
  conditions other member := sound.conditions other (List.mem_filter.mp member).1
  actions := sound.actions
  history := sound.history

/-- An action of a stored trigger is saved that was checked. -/
theorem saveAction (sound : WellFormed handlers store) {action : Action}
    (has : store.Has action.trigger)
    (takes : Takes handlers.actions action.kind action.params) :
    WellFormed handlers (store.saveAction action) where
  triggers := sound.triggers
  conditions := sound.conditions
  actions other member := by
    obtain rfl | before := Step.mem_upsert member
    · exact ⟨has, takes⟩
    · exact sound.actions other before
  history := sound.history

theorem deleteAction (sound : WellFormed handlers store) (id : ActionId) :
    WellFormed handlers (store.deleteAction id).2 where
  triggers := sound.triggers
  conditions := sound.conditions
  actions other member := sound.actions other (List.mem_filter.mp member).1
  history := sound.history

/-- An entry is added to the history of a stored trigger. -/
theorem appendHistory (sound : WellFormed handlers store) {call : Call}
    (has : store.Has call.trigger) : WellFormed handlers (store.appendHistory call) where
  triggers := sound.triggers
  conditions := sound.conditions
  actions := sound.actions
  history other member := by
    obtain before | new := List.mem_append.mp member
    · exact sound.history other before
    · obtain rfl := List.mem_singleton.mp new
      exact has

/-- The schedule of a stored trigger compiles. -/
theorem compiles (sound : WellFormed handlers store) {trigger : Trigger}
    (member : trigger ∈ store.triggers) {template : ScheduleTemplate}
    (timed : trigger.kind.template? = some template) :
    ∃ schedule, template.compileWith handlers.zones = .ok schedule := by
  obtain ⟨_, -, checked⟩ := bind_eq_ok.mp (sound.triggers trigger member)
  generalize trigger.kind = kind at checked timed
  have verified : template.verify handlers.zones = .ok () := by
    cases kind with
    | contractEvent => cases timed
    | _ =>
      cases timed
      exact checked
  exact ScheduleTemplate.compiles_of_verify verified

end WellFormed

end TaskAutomation
