import TaskAutomation.Engine.Steps

/-!
This file defines the service through which triggers and their steps are made, changed and removed.
Everything is checked before it is stored, and the subscription to the events of a contract follows
the life of its trigger.
-/

namespace TaskAutomation

/-- Why the service refuses something. -/
inductive ServiceFault where
  | store (fault : StoreFault)
  | invalid (refusal : Invalid)
  | registry (fault : RegistryFault)
  | notFound (what : String)
  | subscription (failure : Failure)
  deriving DecidableEq, Repr

def ServiceFault.message : ServiceFault → String
  | store fault => fault.message
  | invalid refusal => refusal.message
  | registry fault => fault.message
  | notFound what => what ++ " not found"
  | subscription failure => "event subscription failed: " ++ failure.message

/-- A change of a trigger; what is absent stays as it is. -/
structure TriggerUpdate where
  name : Option String := none
  kind : Option TriggerKind := none
  active : Option Bool := none
  deriving DecidableEq, Repr

/-- A change of a step; what is absent stays as it is. -/
structure StepUpdate where
  params : Option Json := none
  priority : Option Int := none
  deriving BEq, Repr

/-- The service, with the zones that schedules may name and the handlers that check the params of
steps. -/
structure AutomateService where
  zones : KnownZones
  conditions : ConditionRegistry
  actions : ActionRegistry

/-- An operation on the automation store as a part of the service. -/
def AutomateRequest.serve (request : AutomateRequest) : Work ServiceFault request.Result :=
  request.ask.mapFault .store

/-- Goes on only with a sound value. -/
def requireValid {α : Type} (result : Except Invalid α) : Work ServiceFault α :=
  Work.ofExcept (result.mapError .invalid)

/-- The trigger of an identifier, which has to exist. -/
def requireTrigger (id : TriggerId) : Work ServiceFault Trigger := do
  match ← AutomateRequest.serve (.getTrigger id) with
  | some trigger => return trigger
  | none => Work.ofExcept (.error (.notFound id.display))

/-! ### Subscriptions -/

namespace TriggerKind

/-- The kind with a new subscription, if it fires upon events. -/
def subscribe (kind : TriggerKind) : Work ServiceFault TriggerKind := do
  match kind with
  | contractEvent source _ =>
    let subscription ← (OutsideRequest.ask (.subscribe source)).mapFault .subscription
    return contractEvent source (some subscription)
  | other => return other

/-- Ends the subscription that is held. Nothing depends on whether that succeeds. -/
def unsubscribe (kind : TriggerKind) : Work ServiceFault Unit :=
  match kind.subscription? with
  | some subscription =>
    Work.ofProgram ((OutsideRequest.ask (.unsubscribe subscription)).run.bind fun _ => .pure ())
  | none => return ()

end TriggerKind

namespace AutomateService

/-! ### Triggers -/

/-- Makes a trigger. -/
def createTrigger (service : AutomateService) (wallet : WalletId) (name : String)
    (kind : TriggerKind) : Work ServiceFault Trigger := do
  requireValid (verifyTrigger service.zones name kind)
  let kind ← kind.subscribe
  let id ← Request.freshId .trigger
  let now ← Request.time
  let trigger := Trigger.new id wallet name kind now
  AutomateRequest.serve (.saveTrigger trigger)
  return trigger

/-- The kind of a trigger after a change. A change that keeps the source keeps the subscription;
another source is subscribed to before the old subscription ends. -/
def changeKind (service : AutomateService) (name : String) (held : TriggerKind) :
    Option TriggerKind → Work ServiceFault TriggerKind
  | none => do
    requireValid (verifyTrigger service.zones name held)
    return held
  | some kind => do
    requireValid (verifyTrigger service.zones name kind)
    if held.sameSource kind then return kind.withSubscription held.subscription?
    else
      let kind ← kind.subscribe
      held.unsubscribe
      return kind

/-- A trigger that is switched on or off. Switching it on again forgets its failed runs. -/
def changeActive (trigger : Trigger) : Option Bool → Trigger
  | none => trigger
  | some active =>
    { trigger with
      retries := if active && !trigger.active then 0 else trigger.retries
      active := active }

/-- Changes a trigger. -/
def updateTrigger (service : AutomateService) (id : TriggerId) (update : TriggerUpdate) :
    Work ServiceFault Trigger := do
  let trigger ← requireTrigger id
  let name := update.name.getD trigger.name
  let kind ← service.changeKind name trigger.kind update.kind
  let now ← Request.time
  let trigger := { changeActive { trigger with name, kind } update.active with updatedAt := now }
  AutomateRequest.serve (.saveTrigger trigger)
  return trigger

/-- Removes a trigger with everything that belongs to it. -/
def deleteTrigger (id : TriggerId) : Work ServiceFault Bool := do
  match ← AutomateRequest.serve (.getTrigger id) with
  | none => return false
  | some trigger =>
    trigger.kind.unsubscribe
    AutomateRequest.serve (.deleteTrigger id)

/-- The history of a trigger. -/
def history (id : TriggerId) : Work ServiceFault (List Call) :=
  AutomateRequest.serve (.history id)

/-! ### Steps -/

/-- Finds the handler of a kind of step and lets it check params. -/
def verifyStep {Kind α : Type} [BEq Kind] (registry : Registry Kind (StepHandler α))
    (name : Kind → String) (kind : Kind) (params : Json) : Work ServiceFault Unit := do
  let handler ← Work.ofExcept ((registry.resolve name kind).mapError .registry)
  requireValid (handler.verify params)

/-- A step after a change. -/
def changeStep {record : IdKind} {Kind : Type} (step : Step record Kind) (update : StepUpdate)
    (now : Instant) : Step record Kind :=
  { step with
    params := update.params.getD step.params
    priority := update.priority.getD step.priority
    updatedAt := now }

/-- Makes a condition of a trigger. -/
def addCondition (service : AutomateService) (trigger : TriggerId) (kind : ConditionKind)
    (params : Json) (priority : Int) : Work ServiceFault Condition := do
  let _ ← requireTrigger trigger
  verifyStep service.conditions ConditionKind.name kind params
  let id ← Request.freshId .condition
  let now ← Request.time
  let condition : Condition := Step.new id trigger kind params priority now
  AutomateRequest.serve (.saveCondition condition)
  return condition

/-- Changes a condition. -/
def updateCondition (service : AutomateService) (id : ConditionId) (update : StepUpdate) :
    Work ServiceFault Condition := do
  match ← AutomateRequest.serve (.getCondition id) with
  | none => Work.ofExcept (.error (.notFound id.display))
  | some condition =>
    match update.params with
    | some params => verifyStep service.conditions ConditionKind.name condition.kind params
    | none => pure ()
    let now ← Request.time
    let condition := changeStep condition update now
    AutomateRequest.serve (.saveCondition condition)
    return condition

/-- Removes a condition. -/
def deleteCondition (id : ConditionId) : Work ServiceFault Bool :=
  AutomateRequest.serve (.deleteCondition id)

/-- Makes an action of a trigger. -/
def addAction (service : AutomateService) (trigger : TriggerId) (kind : ActionKind)
    (params : Json) (priority : Int) : Work ServiceFault Action := do
  let _ ← requireTrigger trigger
  verifyStep service.actions ActionKind.name kind params
  let id ← Request.freshId .action
  let now ← Request.time
  let action : Action := Step.new id trigger kind params priority now
  AutomateRequest.serve (.saveAction action)
  return action

/-- Changes an action. -/
def updateAction (service : AutomateService) (id : ActionId) (update : StepUpdate) :
    Work ServiceFault Action := do
  match ← AutomateRequest.serve (.getAction id) with
  | none => Work.ofExcept (.error (.notFound id.display))
  | some action =>
    match update.params with
    | some params => verifyStep service.actions ActionKind.name action.kind params
    | none => pure ()
    let now ← Request.time
    let action := changeStep action update now
    AutomateRequest.serve (.saveAction action)
    return action

/-- Removes an action. -/
def deleteAction (id : ActionId) : Work ServiceFault Bool :=
  AutomateRequest.serve (.deleteAction id)

end AutomateService

end TaskAutomation
