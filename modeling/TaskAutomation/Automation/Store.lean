import TaskAutomation.Automation.Call
import TaskAutomation.Automation.Step
import TaskAutomation.Automation.Trigger

/-!
This file defines the store of triggers, their steps and their history. Triggers are kept in
ascending order of their identifiers, and steps and history in the order in which they were added; a
step that is saved again keeps its place. With a trigger goes everything that belongs to it.
-/

namespace TaskAutomation

/-! ### Lists of steps -/

namespace Step

variable {record : IdKind} {Kind : Type}

/-- Puts a step in the place of the one with its identifier, or behind all others. -/
def upsert (steps : List (Step record Kind)) (step : Step record Kind) : List (Step record Kind) :=
  if steps.any fun other => other.id = step.id then
    steps.map fun other => if other.id = step.id then step else other
  else steps ++ [step]

/-- Takes out the step with an identifier. -/
def remove (steps : List (Step record Kind)) (id : Id record) : List (Step record Kind) :=
  steps.filter fun other => other.id ≠ id

/-- The step with an identifier. -/
def find? (steps : List (Step record Kind)) (id : Id record) : Option (Step record Kind) :=
  steps.find? fun other => other.id = id

/-- The steps of a trigger in ascending order of their priority numbers; steps with the same number
keep the order of the list. -/
def ofTrigger (steps : List (Step record Kind)) (trigger : TriggerId) :
    List (Step record Kind) :=
  (steps.filter fun step => step.trigger = trigger).mergeSort fun a b => a.priority ≤ b.priority

end Step

/-! ### The store -/

/-- The store of an automation. -/
structure AutomateStore where
  triggers : List Trigger
  conditions : List Condition
  actions : List Action
  history : List Call
  deriving BEq, Repr, Inhabited

namespace AutomateStore

/-- A store without anything in it. -/
def empty : AutomateStore := ⟨[], [], [], []⟩

/-- The trigger with an identifier. -/
def trigger? (store : AutomateStore) (id : TriggerId) : Option Trigger :=
  store.triggers.find? fun trigger => trigger.id = id

/-- Puts a trigger among others in ascending order of identifiers; one with the same identifier
gives way. -/
def insertTrigger (trigger : Trigger) : List Trigger → List Trigger
  | [] => [trigger]
  | other :: rest =>
    if trigger.id = other.id then trigger :: rest
    else if trigger.id.ulid.lt other.id.ulid then trigger :: other :: rest
    else other :: insertTrigger trigger rest

def saveTrigger (store : AutomateStore) (trigger : Trigger) : AutomateStore :=
  { store with triggers := insertTrigger trigger store.triggers }

/-- Takes a trigger out, with its steps and its history. -/
def deleteTrigger (store : AutomateStore) (id : TriggerId) : Bool × AutomateStore :=
  if (store.trigger? id).isNone then (false, store)
  else
    (true, {
      triggers := store.triggers.filter fun trigger => trigger.id ≠ id
      conditions := store.conditions.filter fun condition => condition.trigger ≠ id
      actions := store.actions.filter fun action => action.trigger ≠ id
      history := store.history.filter fun call => call.trigger ≠ id })

/-- The conditions of a trigger in the order in which they are asked. -/
def conditionsOf (store : AutomateStore) (trigger : TriggerId) : List Condition :=
  Step.ofTrigger store.conditions trigger

def saveCondition (store : AutomateStore) (condition : Condition) : AutomateStore :=
  { store with conditions := Step.upsert store.conditions condition }

def deleteCondition (store : AutomateStore) (id : ConditionId) : Bool × AutomateStore :=
  let kept := Step.remove store.conditions id
  (kept.length ≠ store.conditions.length, { store with conditions := kept })

/-- The actions of a trigger in the order in which they are done. -/
def actionsOf (store : AutomateStore) (trigger : TriggerId) : List Action :=
  Step.ofTrigger store.actions trigger

def saveAction (store : AutomateStore) (action : Action) : AutomateStore :=
  { store with actions := Step.upsert store.actions action }

def deleteAction (store : AutomateStore) (id : ActionId) : Bool × AutomateStore :=
  let kept := Step.remove store.actions id
  (kept.length ≠ store.actions.length, { store with actions := kept })

def appendHistory (store : AutomateStore) (call : Call) : AutomateStore :=
  { store with history := store.history ++ [call] }

/-- The history of a trigger, oldest entry first. -/
def historyOf (store : AutomateStore) (trigger : TriggerId) : List Call :=
  store.history.filter fun call => call.trigger = trigger

end AutomateStore

end TaskAutomation
