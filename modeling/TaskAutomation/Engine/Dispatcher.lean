import TaskAutomation.Engine.Program
import TaskAutomation.Engine.Registry
import TaskAutomation.Task.Decision
import TaskAutomation.Task.Kind

/-!
This file defines how one task is run: it is claimed, its handler is run within a limit of time, a
decision is made on how that ended, and the decision is written back. A handler that breaks off or
takes too long fails in a way that another attempt may mend.
-/

namespace TaskAutomation

/-! ### Handlers -/

/-- The handler of tasks of one kind, given a task and the time of its claim. -/
abbrev Handler := Task → Instant → Program Outcome

/-- The handler that reads the params of the task before it works on them. Params that are refused
and failures of the work become the outcome. -/
def Handler.typed {Params : Type} (parse : Json → Except Invalid Params)
    (work : Run Params → Work Failure Outcome) : Handler := fun task now =>
  match parse task.params with
  | .error invalid => .pure (Outcome.failed invalid.failure)
  | .ok params =>
    (work (Run.start task params now)).run.bind fun
      | .ok outcome => .pure outcome
      | .error failure => .pure (Outcome.failed failure)

/-- The handlers of tasks. -/
abbrev TaskRegistry := Registry TaskKind Handler

namespace TaskRegistry

/-- The kind and the handler of a task by the name that the task holds. -/
def resolveName (registry : TaskRegistry) (name : String) :
    Except RegistryFault (TaskKind × Handler) :=
  match (TaskKind.ofName? name).bind fun kind =>
      (registry.find? kind).map fun handler => (kind, handler) with
  | some found => .ok found
  | none => .error (.notFound name)

/-- Those of the expected kinds that have no handler. -/
def missing (registry : TaskRegistry) (expected : List TaskKind) : List TaskKind :=
  expected.filter fun kind => (registry.find? kind).isNone

end TaskRegistry

/-- Why a registry of task handlers is refused. -/
inductive AssemblyFault where
  | registry (fault : RegistryFault)
  | missing (kinds : List TaskKind)
  deriving DecidableEq, Repr

def AssemblyFault.message : AssemblyFault → String
  | registry fault => fault.message
  | missing kinds =>
    "Missing task types: [" ++ ", ".intercalate (kinds.map fun kind => Text.quoted kind.name) ++
      "]. These tasks were expected but not registered."

/-- The registry of given handlers, which has to hold the expected kinds. -/
def TaskRegistry.assemble (handlers : List (TaskKind × Handler)) (expected : List TaskKind) :
    Except AssemblyFault TaskRegistry := do
  let registry ← (Registry.empty.registerAll TaskKind.name handlers).mapError .registry
  match TaskRegistry.missing registry expected with
  | [] => .ok registry
  | kinds => .error (.missing kinds)

/-! ### Dispatching -/

/-- How tasks are dispatched. -/
structure Dispatcher where
  registry : TaskRegistry
  decider : Decider
  topics : List String
  handlerTimeout : Delay
  /-- How long a worker waits when nothing is due. -/
  pollInterval : Delay

namespace Dispatcher

/-- The failure of a handler that broke off. -/
def panicFailure (message : String) : Failure :=
  .transient ("handler panicked: task N panicked with message " ++ Text.quoted message)

/-- The failure of a handler that took too long. -/
def timeoutFailure (limit : Delay) : Failure :=
  .transient ("handler timed out after " ++ limit.text)

/-- The outcome of a handler that ended in one way or another. -/
def outcomeOf (limit : Delay) : Program.Ending Outcome → Outcome
  | .finished outcome => outcome
  | .panicked message => .failed (panicFailure message)
  | .timedOut => .failed (timeoutFailure limit)

/-- Runs a handler within a limit. Others may go first before it starts and after it has ended; with
a limit of no length it does not start at all. -/
def invoke (limit : Delay) (handler : Handler) (task : Task) (now : Instant) : Program Outcome :=
  Program.yield.bind fun _ =>
    if limit.nanos = 0 then .pure (.failed (timeoutFailure limit))
    else
      (Program.within limit.nanos (handler task now)).bind fun ending =>
        Program.yield.bind fun _ => .pure (outcomeOf limit ending)

/-- The outcome of a run of a task. A name without a handler is a failure for good. -/
def outcome (dispatcher : Dispatcher) (task : Task) (now : Instant) : Program Outcome :=
  match dispatcher.registry.resolveName task.handler with
  | .ok (_, handler) => invoke dispatcher.handlerTimeout handler task now
  | .error fault => .pure (.failed (.permanent fault.message))

/-- The report on a run. The reason of another attempt is kept with the diagnostics. -/
def report (task : Task) (outcome : Outcome) (finishedAt : Instant) : RunReport :=
  { RunReport.bare task.id finishedAt with
    params := outcome.params
    info := outcome.info
    rearm := outcome.conclusion.isLater }

/-- Writes a decision back. -/
def apply (report : RunReport) : Decision → Work StoreFault Task
  | .complete => TaskRequest.ask (.complete report)
  | .reschedule time reason =>
    let report :=
      if report.rearm then report else { report with info := report.info ++ [reason] }
    TaskRequest.ask (.reschedule report time)
  | .markError reason => TaskRequest.ask (.fail report reason)

/-- Runs the next task that is due, if there is one, and gives it as it is after that. -/
def runOnce (dispatcher : Dispatcher) : Work StoreFault (Option Task) := do
  let now ← Request.time
  match ← TaskRequest.ask (.claim dispatcher.topics now) with
  | none => return none
  | some task =>
    let outcome ← Work.ofProgram (dispatcher.outcome task now)
    let finishedAt ← Request.time
    let decision := dispatcher.decider.decide task outcome.conclusion finishedAt
    let task ← apply (report task outcome finishedAt) decision
    return some task

end Dispatcher

end TaskAutomation
