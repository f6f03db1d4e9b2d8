import TaskAutomation.Engine.Dispatcher
import TaskAutomation.Engine.Steps

/-!
This file defines the run of a trigger. Its conditions are asked one after the other until one does
not hold, and only if all hold its actions are done, until one fails. Every run of an active trigger
gets an entry in the history, and too many failed runs in a row switch the trigger off.
-/

namespace TaskAutomation

/-- What the run of a trigger needs. -/
structure TriggerRunner where
  conditions : ConditionRegistry
  actions : ActionRegistry
  /-- The number of failed runs in a row that switches a trigger off. -/
  maxRetries : Nat

/-- The number of failed runs has 32 bits and stays at its largest value. -/
def maxRetryCount : Nat := Word.size32 - 1

/-- A trigger after a run at a given time. -/
def Trigger.afterRun (trigger : Trigger) (maxRetries : Nat) (outcome : CallOutcome)
    (now : Instant) : Trigger :=
  let trigger := { trigger with lastCallAt := some now, updatedAt := now }
  if ¬ outcome.isFailure then { trigger with retries := 0 }
  else
    let retries := min (trigger.retries + 1) maxRetryCount
    { trigger with
      retries
      active := if maxRetries ≤ retries then false else trigger.active }

namespace TriggerRunner

/-- What is written about a step that failed. -/
def stepError (what kind id : String) (failure : Failure) : String :=
  what ++ " " ++ kind ++ " (" ++ id ++ "): " ++ failure.message

/-- Asks conditions until one does not hold; nothing if all hold. -/
def askAll (runner : TriggerRunner) :
    List Condition → Program (Option (CallOutcome × Option String))
  | [] => .pure none
  | condition :: rest =>
    (runner.conditions.ask condition).run.bind fun
      | .ok true => runner.askAll rest
      | .ok false => .pure (some (.skipped, none))
      | .error failure =>
        .pure (some (.notFired,
          some (stepError "condition" condition.kind.name condition.id.display failure)))

/-- Does actions until one fails. -/
def doAll (runner : TriggerRunner) : List Action → Program (CallOutcome × Option String)
  | [] => .pure (.fired, none)
  | action :: rest =>
    (runner.actions.execute action).run.bind fun
      | .ok () => runner.doAll rest
      | .error failure =>
        .pure (.failed, some (stepError "action" action.kind.name action.id.display failure))

/-- Asks the conditions of a trigger and does its actions. -/
def perform (runner : TriggerRunner) (id : TriggerId) :
    Work StoreFault (CallOutcome × Option String) := do
  let conditions ← AutomateRequest.ask (.conditions id)
  match ← Work.ofProgram (runner.askAll conditions) with
  | some result => return result
  | none =>
    let actions ← AutomateRequest.ask (.actions id)
    Work.ofProgram (runner.doAll actions)

/-- Runs a trigger and gives the new entry of its history; there is none when the trigger does not
exist or is switched off. -/
def run (runner : TriggerRunner) (id : TriggerId) : Work StoreFault (Option Call) := do
  match ← AutomateRequest.ask (.getTrigger id) with
  | none => return none
  | some trigger =>
    if ¬ trigger.active then return none
    else
      let (outcome, error) ← runner.perform id
      let now ← Request.time
      let callId ← Request.freshId .call
      let call : Call := ⟨callId, id, outcome, error, now⟩
      AutomateRequest.ask (.appendHistory call)
      AutomateRequest.ask (.saveTrigger (trigger.afterRun runner.maxRetries outcome now))
      return some call

/-- The handler of the tasks that run triggers. -/
def handler (runner : TriggerRunner) : Handler := Handler.typed TriggerRun.parse fun run => do
  let id := run.params.id
  match ← Work.needingStore (runner.run id) with
  | some call => return (run.addInfo (id.display ++ ": " ++ call.outcome.title)).done
  | none => return (run.addInfo (id.display ++ ": missing or inactive")).done

end TriggerRunner

/-! ### Queueing runs -/

/-- How runs of triggers are queued. -/
structure RunSettings where
  topic : String
  priority : Int
  deriving DecidableEq, Repr

/-- Queues a run of a trigger. If one is already in flight, the new one is kept as a collision. -/
def RunSettings.pushRun (settings : RunSettings) (id : TriggerId) : Work StoreFault Pushed :=
  let run : TriggerRun := ⟨id⟩
  TaskRequest.ask (.push TaskKind.triggerRun.name run.encode {
    topic := settings.topic
    priority := settings.priority
    collisionSign := some run.collisionSign })

end TaskAutomation
