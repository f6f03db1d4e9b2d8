import TaskAutomation.Id.Basic
import TaskAutomation.Time.Instant

/-!
This file defines the history of a trigger: one entry for every run that was recorded, with how it
ended.
-/

namespace TaskAutomation

/-- How a run of a trigger ended. -/
inductive CallOutcome where
  /-- Every condition held and every action was done. -/
  | fired
  /-- A condition did not hold. -/
  | skipped
  /-- A condition could not be asked. -/
  | notFired
  /-- An action could not be done. -/
  | failed
  deriving DecidableEq, Repr, Inhabited

namespace CallOutcome

def all : List CallOutcome := [fired, skipped, notFired, failed]

def name : CallOutcome → String
  | fired => "fired"
  | skipped => "skipped"
  | notFired => "not_fired"
  | failed => "failed"

def named : List (String × CallOutcome) := all.map fun outcome => (outcome.name, outcome)

/-- The outcome in a line of diagnostics. -/
def title : CallOutcome → String
  | fired => "Fired"
  | skipped => "Skipped"
  | notFired => "NotFired"
  | failed => "Failed"

/-- The run counts against the trigger. -/
def isFailure : CallOutcome → Bool
  | notFired | failed => true
  | _ => false

end CallOutcome

/-- An entry of the history. -/
structure Call where
  id : CallId
  trigger : TriggerId
  outcome : CallOutcome
  /-- Why the run failed, if it did. -/
  error : Option String
  createdAt : Instant
  deriving DecidableEq, Repr, Inhabited

end TaskAutomation
