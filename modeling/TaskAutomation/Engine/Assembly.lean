import TaskAutomation.Config.Basic
import TaskAutomation.Engine.Reaper
import TaskAutomation.Engine.Rules
import TaskAutomation.Engine.Tick
import TaskAutomation.Engine.Transaction

/-!
This file puts the engine together from the settings: the handlers of all kinds of tasks and steps,
the service, the dispatcher and the reaper.
-/

namespace TaskAutomation

/-- The parts of the engine. -/
structure Engine where
  service : AutomateService
  runner : TriggerRunner
  tick : TickSettings
  dispatcher : Dispatcher
  reaper : Reaper

namespace QueueConfig

/-- The dispatcher for given handlers. -/
def dispatcher (config : QueueConfig) (registry : TaskRegistry) : Dispatcher where
  registry := registry
  decider := config.decider
  topics := config.topics
  handlerTimeout := config.handlerTimeout
  pollInterval := config.pollInterval

/-- The reaper. -/
def reaper (config : QueueConfig) : Reaper where
  staleAfter := config.staleAfter
  interval := config.reapInterval
  retention := some config.retention

end QueueConfig

namespace AutomateConfig

/-- How runs of triggers are queued. -/
def runs (config : AutomateConfig) : RunSettings := ⟨config.topic, config.runPriority⟩

/-- What the watcher of the clock needs. -/
def tick (config : AutomateConfig) (known : KnownZones) : TickSettings :=
  ⟨known, config.runs, config.tickInterval⟩

end AutomateConfig

namespace Engine

/-- The handlers of all kinds of tasks. -/
def handlers (known : KnownZones) (config : AutomateConfig) (runner : TriggerRunner) :
    List (TaskKind × Handler) :=
  [(.triggerRun, runner.handler), (.scheduleTick, (config.tick known).handler),
    (.contractEvent, config.runs.eventHandler),
    (.transactionRun, TransactionRun.handler config.transactionPoll)]

/-- The engine with the zones that are known and with handlers for the given kinds of steps. -/
def assemble (known : KnownZones) (config : Config) (conditions : List ConditionKind)
    (actions : List ActionKind) : Except AssemblyFault Engine := do
  let conditions ← (Registry.empty.registerAll ConditionKind.name
    (conditions.map fun kind => (kind, kind.handler known))).mapError .registry
  let actions ← (Registry.empty.registerAll ActionKind.name
    (actions.map fun kind => (kind, kind.handler config.automate.topic))).mapError .registry
  let runner : TriggerRunner := ⟨conditions, actions, config.automate.maxTriggerRetries⟩
  let registry ← TaskRegistry.assemble (handlers known config.automate runner) TaskKind.all
  .ok {
    service := ⟨known, conditions, actions⟩
    runner
    tick := config.automate.tick known
    dispatcher := config.queue.dispatcher registry
    reaper := config.queue.reaper }

/-- The engine with handlers for all kinds of steps. -/
def ofConfig (known : KnownZones) (config : Config) : Except AssemblyFault Engine :=
  assemble known config ConditionKind.all ActionKind.all

end Engine

end TaskAutomation
