import TaskAutomation.Id.Basic
import TaskAutomation.Json.Basic
import TaskAutomation.Time.Instant

/-!
This file defines the steps that are attached to a trigger: conditions, which are asked, and
actions, which are done. Steps are taken in ascending order of their priority numbers.
-/

namespace TaskAutomation

/-- The questions that can be asked. -/
inductive ConditionKind where
  | schedule
  | balance
  | gasPrice
  | contractMetric
  deriving DecidableEq, Repr, Inhabited

namespace ConditionKind

def all : List ConditionKind := [schedule, balance, gasPrice, contractMetric]

def name : ConditionKind → String
  | schedule => "schedule"
  | balance => "ethereumBalance"
  | gasPrice => "ethereumGasPrice"
  | contractMetric => "contractMetric"

def named : List (String × ConditionKind) := all.map fun kind => (kind.name, kind)

end ConditionKind

/-- The things that can be done. -/
inductive ActionKind where
  | notification
  | automateRun
  deriving DecidableEq, Repr, Inhabited

namespace ActionKind

def all : List ActionKind := [notification, automateRun]

def name : ActionKind → String
  | notification => "notification"
  | automateRun => "ethereumAutomateRun"

def named : List (String × ActionKind) := all.map fun kind => (kind.name, kind)

end ActionKind

/-- A step of a trigger. -/
structure Step (record : IdKind) (Kind : Type) where
  id : Id record
  trigger : TriggerId
  kind : Kind
  params : Json
  priority : Int
  createdAt : Instant
  updatedAt : Instant
  deriving BEq, Repr, Inhabited

abbrev Condition := Step .condition ConditionKind
abbrev Action := Step .action ActionKind

/-- A new step. -/
def Step.new {record : IdKind} {Kind : Type} (id : Id record) (trigger : TriggerId) (kind : Kind)
    (params : Json) (priority : Int) (now : Instant) : Step record Kind :=
  ⟨id, trigger, kind, params, priority, now, now⟩

end TaskAutomation
