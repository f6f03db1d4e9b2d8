import TaskAutomation.Engine.Program

/-!
This file defines a world in which programs run: a clock, a task queue, an automation store and a
world outside. Any call of the two stores may be planned to fail, call by call; a call that fails
does nothing else.
-/

namespace TaskAutomation

/-! ### Planned faults -/

/-- For every gate the verdicts on its next calls: a call fails or goes through. Calls beyond the
plan go through. -/
structure FaultPlan (Gate Fault : Type) where
  verdicts : Gate → List (Option Fault)

namespace FaultPlan

variable {Gate Fault : Type}

/-- A plan without faults. -/
def none : FaultPlan Gate Fault := ⟨fun _ => []⟩

/-- The verdict on a call, and the plan for the calls after it. -/
def take [DecidableEq Gate] (plan : FaultPlan Gate Fault) (gate : Gate) :
    Option Fault × FaultPlan Gate Fault :=
  match plan.verdicts gate with
  | [] => (.none, plan)
  | verdict :: rest =>
    (verdict, ⟨fun other => if other = gate then rest else plan.verdicts other⟩)

/-- The plan with other verdicts on the next calls of a gate. -/
def set [DecidableEq Gate] (plan : FaultPlan Gate Fault) (gate : Gate)
    (verdicts : List (Option Fault)) : FaultPlan Gate Fault :=
  ⟨fun other => if other = gate then verdicts else plan.verdicts other⟩

end FaultPlan

/-- The operations of the two stores, for which faults can be planned. -/
inductive StoreGate where
  | taskPush
  | taskClaim
  | taskComplete
  | taskFail
  | taskReschedule
  | taskReap
  | taskPurge
  | getTrigger
  | listTriggers
  | saveTrigger
  | deleteTrigger
  | conditions
  | getCondition
  | saveCondition
  | deleteCondition
  | actions
  | getAction
  | saveAction
  | deleteAction
  | appendHistory
  | history
  deriving DecidableEq, Repr

namespace StoreGate

def all : List StoreGate :=
  [taskPush, taskClaim, taskComplete, taskFail, taskReschedule, taskReap, taskPurge, getTrigger,
    listTriggers, saveTrigger, deleteTrigger, conditions, getCondition, saveCondition,
    deleteCondition, actions, getAction, saveAction, deleteAction, appendHistory, history]

/-- The name under which faults are planned. -/
def name : StoreGate → String
  | taskPush => "tasks.push"
  | taskClaim => "tasks.claim_due"
  | taskComplete => "tasks.complete"
  | taskFail => "tasks.fail"
  | taskReschedule => "tasks.reschedule"
  | taskReap => "tasks.reap_stale"
  | taskPurge => "tasks.purge_finished"
  | getTrigger => "automate.get_trigger"
  | listTriggers => "automate.list_triggers"
  | saveTrigger => "automate.save_trigger"
  | deleteTrigger => "automate.delete_trigger"
  | conditions => "automate.conditions"
  | getCondition => "automate.get_condition"
  | saveCondition => "automate.save_condition"
  | deleteCondition => "automate.delete_condition"
  | actions => "automate.actions"
  | getAction => "automate.get_action"
  | saveAction => "automate.save_action"
  | deleteAction => "automate.delete_action"
  | appendHistory => "automate.append_history"
  | history => "automate.history"

def ofName? (name : String) : Option StoreGate := all.find? fun gate => gate.name == name

end StoreGate

/-- The gate of an operation of the task queue. -/
def TaskRequest.gate : TaskRequest → StoreGate
  | push .. => .taskPush
  | claim .. => .taskClaim
  | complete .. => .taskComplete
  | fail .. => .taskFail
  | reschedule .. => .taskReschedule
  | reap .. => .taskReap
  | purge .. => .taskPurge

/-- The gate of an operation of the automation store. -/
def AutomateRequest.gate : AutomateRequest → StoreGate
  | getTrigger _ => .getTrigger
  | listTriggers => .listTriggers
  | saveTrigger _ => .saveTrigger
  | deleteTrigger _ => .deleteTrigger
  | conditions _ => .conditions
  | getCondition _ => .getCondition
  | saveCondition _ => .saveCondition
  | deleteCondition _ => .deleteCondition
  | actions _ => .actions
  | getAction _ => .getAction
  | saveAction _ => .saveAction
  | deleteAction _ => .deleteAction
  | appendHistory _ => .appendHistory
  | history _ => .history

/-! ### New identifiers -/

/-- A supply of identifiers for records: the nth identifier of every kind, and how many of them are
in use. An identifier that was handed out and not stored is handed out again. -/
structure IdSupply where
  nth : IdKind → Nat → Ulid
  used : IdKind → Nat

namespace IdSupply

/-- The next identifier of a kind. -/
def next (supply : IdSupply) (kind : IdKind) : Ulid := supply.nth kind (supply.used kind)

/-- The supply after a record with an identifier was stored. -/
def stored (supply : IdSupply) {kind : IdKind} (id : Id kind) : IdSupply :=
  if id.ulid = supply.next kind then
    { supply with used := fun other => supply.used other + if other = kind then 1 else 0 }
  else supply

end IdSupply

/-! ### The world -/

/-- A world. -/
structure World (State : Type) where
  clock : Instant
  backend : Backend
  ids : IdSource
  /-- The random bits for the identifiers of tasks, and how many have been drawn. -/
  draws : Nat → Nat
  drawn : Nat
  /-- The identifiers of the tasks that were stored, in the order of their pushes. -/
  pushed : List TaskId
  automate : AutomateStore
  supply : IdSupply
  faults : FaultPlan StoreGate String
  outside : State

namespace World

variable {State : Type}

/-- A world at a time with an empty task queue and an empty automation store. -/
def start (clock : Instant) (backend : Backend) (draws : Nat → Nat) (supply : IdSupply)
    (outside : State) : World State :=
  ⟨clock, backend, .fresh, draws, 0, [], .empty, supply, .none, outside⟩

/-- Answers an operation on the task queue that goes through. -/
def answerTasks (world : World State) :
    (request : TaskRequest) → Except StoreFault request.Result × World State
  | .push handler params options =>
    let (ulid, ids) := world.ids.issue world.clock (world.draws world.drawn)
    let (pushed, backend) := world.backend.push ⟨ulid⟩ world.clock handler params options
    (pushed, { world with
      backend, ids
      drawn := world.drawn + 1
      pushed := if pushed.isOk then world.pushed ++ [⟨ulid⟩] else world.pushed })
  | .claim topics now =>
    let (task, backend) := world.backend.claim topics now
    (task, { world with backend })
  | .complete report =>
    let (task, backend) := world.backend.complete report
    (task, { world with backend })
  | .fail report why =>
    let (task, backend) := world.backend.fail report why
    (task, { world with backend })
  | .reschedule report startAt =>
    let (task, backend) := world.backend.reschedule report startAt
    (task, { world with backend })
  | .reap cutoff =>
    let (changed, backend) := world.backend.reap world.clock cutoff
    (.ok changed, { world with backend })
  | .purge before =>
    let (changed, backend) := world.backend.purge before
    (.ok changed, { world with backend })

/-- Answers an operation on the automation store that goes through. -/
def answerAutomate (world : World State) :
    (request : AutomateRequest) → request.Result × World State
  | .getTrigger id => (world.automate.trigger? id, world)
  | .listTriggers => (world.automate.triggers, world)
  | .saveTrigger trigger =>
    ((), { world with
      automate := world.automate.saveTrigger trigger
      supply := (world.supply.stored trigger.id).stored trigger.wallet })
  | .deleteTrigger id =>
    let (deleted, automate) := world.automate.deleteTrigger id
    (deleted, { world with automate })
  | .conditions trigger => (world.automate.conditionsOf trigger, world)
  | .getCondition id => (Step.find? world.automate.conditions id, world)
  | .saveCondition condition =>
    ((), { world with
      automate := world.automate.saveCondition condition
      supply := world.supply.stored condition.id })
  | .deleteCondition id =>
    let (deleted, automate) := world.automate.deleteCondition id
    (deleted, { world with automate })
  | .actions trigger => (world.automate.actionsOf trigger, world)
  | .getAction id => (Step.find? world.automate.actions id, world)
  | .saveAction action =>
    ((), { world with
      automate := world.automate.saveAction action
      supply := world.supply.stored action.id })
  | .deleteAction id =>
    let (deleted, automate) := world.automate.deleteAction id
    (deleted, { world with automate })
  | .appendHistory call =>
    ((), { world with
      automate := world.automate.appendHistory call
      supply := world.supply.stored call.id })
  | .history trigger => (world.automate.historyOf trigger, world)

/-- The verdict on a call of a gate. -/
def takeFault (world : World State) (gate : StoreGate) : Option String × World State :=
  let (verdict, faults) := world.faults.take gate
  (verdict, { world with faults })

/-- Answers a request. -/
def answer [Outside State] : (request : Request) → World State → request.Reply × World State
  | .now, world => (world.clock, world)
  | .elapse span, world => ((), { world with clock := (world.clock.add? span).getD world.clock })
  | .fresh kind, world => (world.supply.next kind, world)
  | .tasks request, world =>
    match world.takeFault request.gate with
    | (some why, world) => (.error (.backend why), world)
    | (none, world) => world.answerTasks request
  | .automate request, world =>
    match world.takeFault request.gate with
    | (some why, world) => (.error (.backend why), world)
    | (none, world) =>
      let (result, world) := world.answerAutomate request
      (.ok result, world)
  | .outside request, world =>
    let (result, outside) := Outside.answer request world.outside
    (result, { world with outside })

/-- Runs a program in a world, when nothing else goes on. -/
def perform {α : Type} [Outside State] (program : Program α) (world : World State) :
    Option α × World State :=
  program.run answer world

end World

end TaskAutomation
