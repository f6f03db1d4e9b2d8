import TaskAutomation.Task.Basic
import TaskAutomation.Task.Failure

/-!
This file defines how a handler ends a run of a task: the work is done, there is to be a later run,
or there was an error. An outcome also carries what the handler wants to keep.
-/

namespace TaskAutomation

/-- How a run ended. -/
inductive Conclusion where
  | done
  | later (time : Instant)
  | error (failure : Failure)
  deriving DecidableEq, Repr, Inhabited

def Conclusion.name : Conclusion → String
  | done => "done"
  | later _ => "later"
  | error _ => "error"

/-- There is to be a later run. -/
def Conclusion.isLater : Conclusion → Bool
  | later _ => true
  | _ => false

/-- The outcome of a run: its conclusion, params that replace those of the task, and lines of
diagnostics. -/
structure Outcome where
  conclusion : Conclusion
  params : Option Json
  info : List String
  deriving BEq, Repr, Inhabited

/-- The outcome of a run that did not get as far as an outcome. -/
def Outcome.failed (failure : Failure) : Outcome := ⟨.error failure, none, []⟩

/-- A run that is under way: what it works on and what it has gathered so far. `now` is the time of
the claim. -/
structure Run (Params : Type) where
  task : Task
  params : Params
  replaced : Option Json
  info : List String
  now : Instant

namespace Run

variable {Params : Type}

/-- A run at its start. -/
def start (task : Task) (params : Params) (now : Instant) : Run Params :=
  ⟨task, params, none, [], now⟩

/-- Adds a line of diagnostics. -/
def addInfo (run : Run Params) (line : String) : Run Params :=
  { run with info := run.info ++ [line] }

/-- Replaces the params. -/
def replaceParams (run : Run Params) (params : Params) (encoded : Json) : Run Params :=
  { run with params := params, replaced := some encoded }

/-- Ends the run. -/
def conclude (run : Run Params) (conclusion : Conclusion) : Outcome :=
  ⟨conclusion, run.replaced, run.info⟩

def done (run : Run Params) : Outcome := run.conclude .done

def later (run : Run Params) (time : Instant) : Outcome := run.conclude (.later time)

/-- Asks for a later run; a time that cannot be represented becomes the latest one, whichever way
the span points. -/
def laterIn (run : Run Params) (span : Span) : Outcome := run.later (run.now.addClamped span)

def error (run : Run Params) (failure : Failure) : Outcome := run.conclude (.error failure)

end Run

end TaskAutomation
