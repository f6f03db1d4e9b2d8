import TaskAutomation.Automation.Params
import TaskAutomation.Engine.Program
import TaskAutomation.Engine.Registry

/-!
This file defines how conditions are asked and actions are done. Every kind of step has a handler
that checks its params and does the work; a step whose kind has no handler, or whose params are
refused, fails for good.
-/

namespace TaskAutomation

/-- The handler of one kind of step. -/
structure StepHandler (α : Type) where
  /-- The params are sound. -/
  verify : Json → Except Invalid Unit
  /-- Does the work for the given params. -/
  perform : Json → Work Failure α

/-- The handlers of conditions. -/
abbrev ConditionRegistry := Registry ConditionKind (StepHandler Bool)

/-- The handlers of actions. -/
abbrev ActionRegistry := Registry ActionKind (StepHandler Unit)

/-- The handler that reads the params before it works on them. -/
def StepHandler.typed {Params α : Type} (parse : Json → Except Invalid Params)
    (work : Params → Work Failure α) : StepHandler α where
  verify json := (parse json).map fun _ => ()
  perform json := do
    let params ← Work.ofExcept ((parse json).mapError Invalid.failure)
    work params

/-! ### Conditions -/

namespace ConditionKind

/-- The clock shows a time that fits a schedule. -/
def askSchedule (known : KnownZones) (template : ScheduleTemplate) : Work Failure Bool := do
  let schedule ← Work.ofExcept ((template.compileWith known).mapError Invalid.failure)
  let now ← Request.time
  return schedule.isDueAt now

def askBalance (params : BalanceParams) : Work Failure Bool := do
  let balance ← OutsideRequest.ask (.balance params.network params.wallet)
  return params.op.holds balance params.value

def askGasPrice (params : GasPriceParams) : Work Failure Bool := do
  let price ← OutsideRequest.ask (.gasPrice params.network)
  return params.op.holds price params.value

/-- A number that was never collected fits nothing. -/
def askMetric (params : MetricParams) : Work Failure Bool := do
  match ← OutsideRequest.ask (.latest params.contract params.metric) with
  | some value => return params.op.holds value params.value
  | none => return false

/-- The handler of a kind. Schedules are compiled with the known zones. -/
def handler (known : KnownZones) : ConditionKind → StepHandler Bool
  | schedule => .typed (ScheduleTemplate.parse known) (askSchedule known)
  | balance => .typed BalanceParams.parse askBalance
  | gasPrice => .typed GasPriceParams.parse askGasPrice
  | contractMetric => .typed MetricParams.parse askMetric

end ConditionKind

/-! ### Actions -/

namespace ActionKind

def sendNotification (params : NotificationParams) : Work Failure Unit :=
  OutsideRequest.ask (.notify params.contact params.message)

/-- Queues a transaction; one that is already in flight is as good. -/
def queueTransaction (topic : String) (params : AutomateRunParams) : Work Failure Unit := do
  let run : TransactionRun := ⟨params.network, params.automate, none⟩
  let options : PushOptions := { topic, collisionSign := some run.collisionSign }
  let _ ← Work.needingStore
    (TaskRequest.ask (.push TaskKind.transactionRun.name run.encode options))
  return ()

/-- The handler of a kind. Transactions are queued on a given topic. -/
def handler (topic : String) : ActionKind → StepHandler Unit
  | notification => .typed NotificationParams.parse sendNotification
  | automateRun => .typed AutomateRunParams.parse (queueTransaction topic)

end ActionKind

/-! ### Steps -/

/-- Does the work of a step. -/
def Registry.performStep {record : IdKind} {Kind α : Type} [BEq Kind]
    (registry : Registry Kind (StepHandler α)) (name : Kind → String) (step : Step record Kind) :
    Work Failure α := do
  let handler ← Work.ofExcept
    ((registry.resolve name step.kind).mapError fun fault => .permanent fault.message)
  handler.perform step.params

/-- Asks a condition. -/
def ConditionRegistry.ask (registry : ConditionRegistry) (condition : Condition) :
    Work Failure Bool := registry.performStep ConditionKind.name condition

/-- Does an action. -/
def ActionRegistry.execute (registry : ActionRegistry) (action : Action) : Work Failure Unit :=
  registry.performStep ActionKind.name action

end TaskAutomation
